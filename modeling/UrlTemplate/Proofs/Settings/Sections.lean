import UrlTemplate.Proofs.Settings.Variables

/-!
# Sections from the environment

A section of settings comes from its JSON text, in which names count in any letter case
(`Fields.inAnyCase?`), and from the variables inside the section, which override it. The two are
merged before the names take their usual form. So an inner section of the text is merged with the
variables below it only if it stands under its usual name, and gives way to them as a whole under
any other spelling (`Value.beneath?`). **Theorem** (`Environment.at?_sectionFields`): at the path of
a setting the section has the text of its own variable, and without one what its JSON text has there
beneath the variables.
-/

namespace UrlTemplate

/-! ### Names in any letter case -/

namespace Fields

variable {fields base override : Fields} {name : String}

/-- The first value under a name in any letter case; the name is given in small letters. -/
def inAnyCase? (fields : Fields) (name : String) : Option Value :=
  (fields.find? fun entry => Text.lower entry.1 = name).map Prod.snd

/-- The fields of a name in any letter case. -/
def spelled (fields : Fields) (name : String) : Fields :=
  fields.filter fun entry => Text.lower entry.1 = name

/-- Whether no two names are equal up to letter case. -/
def CaseDistinct (fields : Fields) : Prop :=
  (fields.map fun entry => Text.lower entry.1).Nodup

instance (fields : Fields) : Decidable fields.CaseDistinct :=
  inferInstanceAs (Decidable (List.Nodup _))

/-- Where names are distinct up to letter case, no name has two spellings. -/
theorem CaseDistinct.spelled_eq (h : fields.CaseDistinct) (name : String) :
    fields.spelled name = (fields.find? fun entry => Text.lower entry.1 = name).toList := by
  induction fields with
  | nil => rfl
  | cons entry rest ih =>
    obtain ⟨hfresh, hrest⟩ := List.nodup_cons.mp h
    by_cases hname : Text.lower entry.1 = name
    · have hnone : spelled rest name = [] := by
        refine List.filter_eq_nil_iff.mpr fun other hother heq => hfresh ?_
        exact List.mem_map.mpr ⟨other, hother, (of_decide_eq_true heq).trans hname.symm⟩
      rw [spelled] at hnone ⊢
      simp [hname, hnone]
    · have hstep := ih hrest
      rw [spelled] at hstep ⊢
      simp [hname, hstep]

/-- Where names are distinct up to letter case, a value under the usual name is the one under the
name in any case. -/
theorem CaseDistinct.inAnyCase?_eq (h : fields.CaseDistinct) (hsmall : Text.lower name = name)
    {v : Value} (hv : fields.lookup name = some v) : fields.inAnyCase? name = some v := by
  have hmem : (name, v) ∈ (fields.find? fun entry => Text.lower entry.1 = name).toList := by
    rw [← h.spelled_eq]
    exact List.mem_filter.mpr ⟨Entries.mem_of_lookup hv, decide_eq_true hsmall⟩
  simp [inAnyCase?, Option.mem_toList.mp hmem]

/-- Binding a key changes the spellings of no name but its own. -/
theorem spelled_put (fields : Fields) (key name : String) (v : Value) :
    spelled (Entries.put fields key v) name =
      if Text.lower key = name then Entries.put (fields.spelled name) key v
      else fields.spelled name := by
  induction fields with
  | nil => by_cases h : Text.lower key = name <;> simp [Entries.put, spelled, h]
  | cons entry rest ih =>
    obtain ⟨k, w⟩ := entry
    unfold spelled at ih ⊢
    rw [Entries.put]
    by_cases hk : k = key
    · subst hk
      by_cases h : Text.lower k = name <;> simp [Entries.put, h]
    · by_cases h : Text.lower key = name <;> by_cases hw : Text.lower k = name <;>
        simp_all [Entries.put]

/-- The spellings of a name in merged fields, if the override has the name in its usual spelling
only. -/
theorem spelled_merge (hsmall : Text.lower name = name) (hnodup : (Entries.keys override).Nodup)
    (husual : ∀ key ∈ Entries.keys override, Text.lower key = name → key = name) :
    spelled (merge base override) name =
      match override.lookup name with
      | none => base.spelled name
      | some v => Entries.put (base.spelled name) name (mergeValue (base.lookup name) v) := by
  induction override generalizing base with
  | nil => simp [merge]
  | cons entry rest ih =>
    obtain ⟨key, v⟩ := entry
    obtain ⟨hfresh, hrest⟩ := List.nodup_cons.mp hnodup
    rw [merge, ih hrest fun other hother => husual other (List.mem_cons_of_mem _ hother),
      spelled_put, Entries.lookup_put, Entries.lookup_cons]
    by_cases hkey : name = key
    · subst hkey
      simp [hsmall, Entries.lookup_eq_none_iff.mpr hfresh]
    · have hother : Text.lower key ≠ name := fun heq =>
        hkey (husual key List.mem_cons_self heq).symm
      simp [hkey, hother]

/-- **The last value under a name** in merged fields is the one of the override under the usual
name, or the one of the base under any spelling. -/
theorem last_spelled_merge (hbase : base.CaseDistinct) (hsmall : Text.lower name = name)
    (hnodup : (Entries.keys override).Nodup)
    (husual : ∀ key ∈ Entries.keys override, Text.lower key = name → key = name) :
    (spelled (merge base override) name).getLast?.map Prod.snd =
      ((override.lookup name).map (mergeValue (base.lookup name))).or (base.inAnyCase? name) := by
  rw [spelled_merge hsmall hnodup husual, hbase.spelled_eq, inAnyCase?]
  generalize base.find? (fun entry => Text.lower entry.1 = name) = found
  rcases override.lookup name with _ | v <;> rcases found with _ | ⟨k, w⟩
  · rfl
  · rfl
  · rfl
  · by_cases hk : k = name <;> simp [Entries.put, hk]

end Fields

namespace Value

/-- Whether what lies on the way along a path, the end apart, is an object with names that are
distinct up to letter case, as far as it is there under a name in any case. -/
def OpensInAnyCase : Value → (path : List String) → Prop
  | _, [] => True
  | .object fields, name :: rest =>
    Fields.CaseDistinct fields ∧ ∀ v ∈ Fields.inAnyCase? fields name, v.OpensInAnyCase rest
  | _, _ :: _ => False

/-- What a path leads to in a value that texts override. Names count in any letter case; but where a
text is bound below a name, nothing else than the usual name counts. -/
def beneath? : Value → (texts : Bindings) → (path : List String) → Option Value
  | v, _, [] => some v
  | .object fields, texts, name :: rest =>
    (if texts.below name = [] then Fields.inAnyCase? fields name else fields.lookup name).bind
      (beneath? · (texts.below name) rest)
  | _, _, _ :: _ => none

variable {fields : Fields} {texts : Bindings} {name : String} {path rest : List String}

/-- Every value is open along the empty path. -/
@[simp] theorem opensInAnyCase_nil (v : Value) : v.OpensInAnyCase [] := by
  simp only [OpensInAnyCase]

/-- An object is open along a path if its names differ in more than letter case and what is under
the first name is open along the rest. -/
@[simp] theorem opensInAnyCase_cons :
    (Value.object fields).OpensInAnyCase (name :: rest) ↔
      fields.CaseDistinct ∧ ∀ v ∈ fields.inAnyCase? name, v.OpensInAnyCase rest := by
  simp only [OpensInAnyCase]

/-- At the end of the path there is the value itself. -/
@[simp] theorem beneath?_nil (v : Value) : v.beneath? texts [] = some v := by
  simp only [beneath?]

/-- In an object the first name counts in any letter case, unless texts are bound below it. -/
@[simp] theorem beneath?_cons :
    (Value.object fields).beneath? texts (name :: rest) =
      (if texts.below name = [] then fields.inAnyCase? name else fields.lookup name).bind
        (beneath? · (texts.below name) rest) := by
  simp only [beneath?]

/-- Whether a value is open along a path in any letter case can be decided. -/
instance decOpensInAnyCase : (v : Value) → (path : List String) → Decidable (v.OpensInAnyCase path)
  | v, [] => isTrue (opensInAnyCase_nil v)
  | .object _, _ :: rest =>
    have := fun v : Value => decOpensInAnyCase v rest
    decidable_of_iff _ opensInAnyCase_cons.symm
  | .null, _ :: _ | .bool _, _ :: _ | .int _, _ :: _ | .float _, _ :: _ | .str _, _ :: _
  | .brokenText, _ :: _ | .list _, _ :: _ => isFalse fun h => by simp only [OpensInAnyCase] at h

/-- What is open along a path with a name in it is an object. -/
theorem OpensInAnyCase.eq_object {v : Value} (h : v.OpensInAnyCase (name :: rest)) :
    ∃ fields, v = .object fields := by
  cases v with
  | object fields => exact ⟨fields, rfl⟩
  | _ => simp only [OpensInAnyCase] at h

/-- No fields are in the way of any path. -/
theorem opensInAnyCase_object_nil (path : List String) :
    (Value.object []).OpensInAnyCase path := by
  cases path with
  | nil => exact opensInAnyCase_nil _
  | cons name rest => simp [Fields.CaseDistinct, Fields.inAnyCase?]

/-- A path leads nowhere in no fields. -/
theorem beneath?_object_nil (texts : Bindings) (name : String) (rest : List String) :
    (Value.object []).beneath? texts (name :: rest) = none := by
  simp [Fields.inAnyCase?]

end Value

/-! ### Names in their usual form -/

namespace Environment

variable {entries : List (String × Outline)} {name : String} {inner : Outline} {fuel : Nat}

/-- A value under a known name: the names of a section take their usual form in turn. -/
def knownValue (fuel : Nat) (inner : Outline) (v : Value) : Value :=
  match inner.isSection, v with
  | true, .object fields => .object (knownNames fuel inner fields)
  | _, v => v

/-- Binds a field under the usual form of its name. -/
def bindKnown (fuel : Nat) (outline : Outline) (named : Fields) (field : String × Value) : Fields :=
  match outline.entries.find? fun entry => entry.1 = Text.lower field.1 with
  | none => Entries.put named field.1 field.2
  | some (known, inner) => Entries.put named known (knownValue fuel inner field.2)

/-- Names take their usual form by binding one field after the other. -/
theorem knownNames_eq (fuel : Nat) (outline : Outline) (fields : Fields) :
    knownNames (fuel + 1) outline fields = fields.foldl (bindKnown fuel outline) [] := by
  rw [knownNames]
  congr 1
  funext named (name, v)
  simp only [bindKnown]
  generalize outline.entries.find? (fun entry => entry.1 = Text.lower name) = found
  rcases found with _ | ⟨known, inner⟩
  · rfl
  · cases inner <;> cases v <;> rfl

/-- Names in their usual form are distinct. -/
theorem nodup_knownNames (fuel : Nat) (outline : Outline) (fields : Fields) :
    (Entries.keys (knownNames (fuel + 1) outline fields)).Nodup := by
  rw [knownNames_eq]
  refine List.foldlRecOn (motive := fun named => (Entries.keys named).Nodup) fields _
    List.nodup_nil fun named h field _ => ?_
  unfold bindKnown
  split <;> exact Entries.nodup_put h _ _

/-- Binding a field in its usual form changes what is found under a known name only if the field has
that name in some letter case. -/
theorem lookup_bindKnown (hname : entries.lookup name = some inner)
    (hsmall : Text.lower name = name) (fuel : Nat) (named : Fields) (field : String × Value) :
    (bindKnown fuel (.sections entries) named field).lookup name =
      if Text.lower field.1 = name then some (knownValue fuel inner field.2)
      else named.lookup name := by
  unfold bindKnown
  by_cases hfield : Text.lower field.1 = name
  · rw [Outline.entries, hfield, Entries.find?_of_lookup hname fun _ _ => rfl]
    simp [Entries.lookup_put]
  · split
    · have hne : name ≠ field.1 := by
        intro heq
        exact hfield (heq ▸ hsmall)
      simp [Entries.lookup_put, hne, hfield]
    · rename_i known other hfound
      have hknown : known = Text.lower field.1 := by simpa using List.find?_some hfound
      have hne : name ≠ known := fun heq => hfield (hknown ▸ heq.symm)
      simp [Entries.lookup_put, hne, hfield]

/-- **Under a known name** stands the last value of its spellings. -/
theorem lookup_knownNames (hname : entries.lookup name = some inner)
    (hsmall : Text.lower name = name) (fuel : Nat) (fields : Fields) :
    (knownNames (fuel + 1) (.sections entries) fields).lookup name =
      ((Fields.spelled fields name).getLast?.map Prod.snd).map (knownValue fuel inner) := by
  have hfold (named : Fields) :
      (fields.foldl (bindKnown fuel (.sections entries)) named).lookup name =
        (((Fields.spelled fields name).getLast?.map Prod.snd).map (knownValue fuel inner)).or
          (named.lookup name) := by
    induction fields generalizing named with
    | nil => rfl
    | cons field rest ih =>
      rw [List.foldl_cons, ih, lookup_bindKnown hname hsmall, Fields.spelled, Fields.spelled]
      by_cases hfield : Text.lower field.1 = name
      · rw [List.filter_cons_of_pos (by simpa using hfield), List.getLast?_cons, if_pos hfield]
        generalize (rest.filter fun entry => Text.lower entry.1 = name).getLast? = last
        rcases last with _ | last <;> rfl
      · rw [List.filter_cons_of_neg (by simpa using hfield), if_neg hfield]
  rw [knownNames_eq, hfold]
  simp

/-! ### A section under variables -/

variable {base : Fields} {texts : Bindings} {path : List String}

/-- Variables that lead somewhere spell the names a section knows in the usual way. -/
theorem usual_bindAll (hregular : (Outline.sections entries).Regular)
    (hleads : ∀ binding ∈ texts, (Outline.sections entries).leads binding.1)
    (hname : entries.lookup name = some inner) :
    ∀ key ∈ Entries.keys (Bindings.bindAll [] texts), Text.lower key = name → key = name := by
  intro key hkey hlower
  obtain ⟨⟨path, text⟩, hbinding, hhead⟩ :=
    (Bindings.mem_keys_bindAll (Bindings.ne_nil_of_leads hleads) hkey).resolve_left
      (by simp [Entries.keys])
  obtain ⟨rest, rfl⟩ := List.head?_eq_some_iff.mp hhead
  rcases hlookup : entries.lookup key with _ | other
  · -- the name is like none that the section knows, but in small letters it is one of them
    have hnone : member? (.sections entries) key = none := by
      simpa [Outline.leads, hlookup] using hleads _ hbinding
    have hall := List.find?_eq_none.mp (Option.map_eq_none_iff.mp hnone) (name, inner)
      (Entries.mem_of_lookup hname)
    simp [hlower] at hall
  · exact (hregular.small hlookup).symm.trans hlower

/-- A value under the name of a setting stays as it is. -/
@[simp] theorem knownValue_leaf (fuel : Nat) (v : Value) : knownValue fuel .leaf v = v := by
  cases v <;> rfl

/-- The names of an object under the name of a section take their usual form. -/
@[simp] theorem knownValue_object (fuel : Nat) (fields : Fields) :
    knownValue fuel (.sections entries) (.object fields) =
      .object (knownNames fuel (.sections entries) fields) :=
  rfl

/-- A section: the fields that its JSON text gives, merged with those of the variables inside it,
under their usual names. -/
def sectionFields (fuel : Nat) (outline : Outline) (base : Fields) (texts : Bindings) : Fields :=
  knownNames fuel outline (Fields.merge base (Bindings.bindAll [] texts))

/-- **Under the name of a setting** a section has the text of its variable, and without one the
value of its JSON text. -/
theorem lookup_sectionFields_leaf (hregular : (Outline.sections entries).Regular)
    (hleads : ∀ binding ∈ texts, (Outline.sections entries).leads binding.1)
    (hbase : base.CaseDistinct) (hname : entries.lookup name = some .leaf) (fuel : Nat) :
    (sectionFields (fuel + 1) (.sections entries) base texts).lookup name =
      ((texts.textAt? [name]).map Value.str).or (base.inAnyCase? name) := by
  rw [sectionFields, lookup_knownNames hname (hregular.small hname),
    Fields.last_spelled_merge hbase (hregular.small hname) texts.nodup_bindAll_nil
      (usual_bindAll hregular hleads hname),
    Bindings.lookup_bindAll_leaf hleads hname]
  rcases texts.textAt? [name] with _ | text <;> rcases base.inAnyCase? name with _ | v <;> simp

/-- Without variables a section is its JSON text under the usual names. -/
@[simp] theorem sectionFields_nil (fuel : Nat) (outline : Outline) (base : Fields) :
    sectionFields fuel outline base [] = knownNames fuel outline base := by
  simp [sectionFields, Bindings.bindAll, Fields.merge]

/-- **Under the name of a section** that no variable goes below it has what its JSON text has. -/
theorem lookup_sectionFields_of_below_nil {others : List (String × Outline)}
    (hregular : (Outline.sections entries).Regular)
    (hleads : ∀ binding ∈ texts, (Outline.sections entries).leads binding.1)
    (hbase : base.CaseDistinct) (hname : entries.lookup name = some (.sections others))
    (hbelow : texts.below name = []) (fuel : Nat) :
    (sectionFields (fuel + 1) (.sections entries) base texts).lookup name =
      (base.inAnyCase? name).map (knownValue fuel (.sections others)) := by
  rw [sectionFields, lookup_knownNames hname (hregular.small hname),
    Fields.last_spelled_merge hbase (hregular.small hname) texts.nodup_bindAll_nil
      (usual_bindAll hregular hleads hname),
    Bindings.lookup_bindAll_nil_section hleads hname, if_pos hbelow]
  rfl

/-- **Under the name of a section** that variables go below it has a section in turn, made of the
object that its JSON text has under the usual name and of those variables. -/
theorem lookup_sectionFields_of_below {others : List (String × Outline)}
    (hregular : (Outline.sections entries).Regular)
    (hleads : ∀ binding ∈ texts, (Outline.sections entries).leads binding.1)
    (hbase : base.CaseDistinct) (hname : entries.lookup name = some (.sections others))
    (hobject : ∀ v ∈ base.lookup name, ∃ inner, v = .object inner)
    (hbelow : texts.below name ≠ []) (fuel : Nat) :
    (sectionFields (fuel + 1) (.sections entries) base texts).lookup name =
      some (.object (sectionFields fuel (.sections others) (Fields.objectAt base name)
        (texts.below name))) := by
  rw [sectionFields, lookup_knownNames hname (hregular.small hname),
    Fields.last_spelled_merge hbase (hregular.small hname) texts.nodup_bindAll_nil
      (usual_bindAll hregular hleads hname),
    Bindings.lookup_bindAll_nil_section hleads hname, if_neg hbelow]
  rw [Fields.objectAt, sectionFields]
  rcases hlookup : base.lookup name with _ | v
  · simp [Fields.merge_nil_left (texts.below name).nodup_bindAll_nil]
  · obtain ⟨inner, rfl⟩ := hobject v hlookup
    simp

/-- **A section along a path to a setting**: the text of the variable for it, and without one what
the JSON text has there beneath the variables; and nothing is in the way. -/
theorem at?_sectionFields {fuel : Nat} (hregular : (Outline.sections entries).Regular)
    (hpath : (Outline.sections entries).at? path = some .leaf) (hfuel : path.length ≤ fuel)
    (hleads : ∀ binding ∈ texts, (Outline.sections entries).leads binding.1)
    (hbase : (Value.object base).OpensInAnyCase path) :
    (Value.object (sectionFields fuel (.sections entries) base texts)).at? path =
      ((texts.textAt? path).map Value.str).or ((Value.object base).beneath? texts path) ∧
    (Value.object (sectionFields fuel (.sections entries) base texts)).Opens path := by
  induction path generalizing entries fuel base texts with
  | nil => cases hpath
  | cons name rest ih =>
    obtain ⟨fuel, rfl⟩ : ∃ n, fuel = n + 1 := ⟨fuel - 1, by simp at hfuel; omega⟩
    obtain ⟨inner, hname, hrest⟩ : ∃ inner, entries.lookup name = some inner ∧
        inner.at? rest = some .leaf := by simpa [Option.bind_eq_some_iff] using hpath
    obtain ⟨hdistinct, hopen⟩ := Value.opensInAnyCase_cons.mp hbase
    have hkeys : (Entries.keys (sectionFields (fuel + 1) (.sections entries) base texts)).Nodup :=
      nodup_knownNames _ _ _
    rw [Value.at?_cons, Value.opens_cons, Value.beneath?_cons]
    cases inner with
    | leaf =>
      obtain rfl := Outline.eq_nil_of_at?_leaf hrest
      rw [lookup_sectionFields_leaf hregular hleads hdistinct hname,
        Bindings.below_leaf hleads hname]
      exact ⟨by simp, hkeys, by simp⟩
    | sections others =>
      obtain ⟨next, rest, rfl⟩ := Outline.exists_cons_of_at?_sections hrest
      have hinner := hregular.of_lookup hname
      have hshorter : (next :: rest).length ≤ fuel := by simpa using hfuel
      rw [← Bindings.textAt?_below]
      by_cases hbelow : texts.below name = []
      · rw [lookup_sectionFields_of_below_nil hregular hleads hdistinct hname hbelow, if_pos hbelow,
          hbelow]
        rcases hv : base.inAnyCase? name with _ | v
        · exact ⟨rfl, hkeys, nofun⟩
        · obtain ⟨fields, rfl⟩ := (hopen v hv).eq_object
          have hstep := ih hinner hrest hshorter (List.forall_mem_nil _) (hopen _ hv)
          rw [sectionFields_nil] at hstep
          exact ⟨hstep.1, hkeys, by simpa using hstep.2⟩
      · have hobject : ∀ v ∈ base.lookup name, ∃ inner, v = .object inner := fun v hv =>
          (hopen v (hdistinct.inAnyCase?_eq (hregular.small hname) hv)).eq_object
        have hopenAt :
            (Value.object (Fields.objectAt base name)).OpensInAnyCase (next :: rest) := by
          rw [Fields.objectAt]
          rcases hv : base.lookup name with _ | v
          · exact Value.opensInAnyCase_object_nil _
          · obtain ⟨fields, rfl⟩ := hobject v hv
            exact hopen _ (hdistinct.inAnyCase?_eq (hregular.small hname) hv)
        have hstep := ih hinner hrest hshorter (Bindings.leads_below hleads hname) hopenAt
        rw [lookup_sectionFields_of_below hregular hleads hdistinct hname hobject hbelow,
          if_neg hbelow]
        refine ⟨?_, hkeys, by simpa using hstep.2⟩
        rw [Option.bind_some, hstep.1, Fields.objectAt]
        rcases hv : base.lookup name with _ | v
        · rw [Value.beneath?_object_nil]
          rfl
        · obtain ⟨fields, rfl⟩ := hobject v hv
          rfl

end Environment

end UrlTemplate
