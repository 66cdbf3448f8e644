import UrlTemplate.Proofs.Value.Merge
import UrlTemplate.Settings.Environment

/-!
# Variables inside a section

The variables for settings inside a section are texts bound to paths (`Environment.inside`), and the
fields that they give the section are built by binding one after the other (`Bindings.bindAll`). A
path of variables leads either to a setting or out of the section, by a name that is like none that
the section knows (`Outline.leads`). Such variables are never read as JSON, so building the fields
does not fail (`Environment.nested_eq`), and at every path to a setting they hold the text of the
last variable for it: under a name that is a section itself they hold what the variables inside that
section give (`Bindings.lookup_bindAll_section`), and under the name of a setting its text
(`Bindings.lookup_bindAll_leaf`). **Theorem** (`Environment.textAt_inside`): that text is the one of
the variable whose name is the path written with two underscores between the names.
-/

namespace UrlTemplate

/-! ### Outlines -/

namespace Outline

/-- What a path of names stands for. -/
def at? : Outline → (path : List String) → Option Outline
  | outline, [] => some outline
  | outline, name :: rest => (outline.entries.lookup name).bind (at? · rest)

/-- An outline is regular if all its names are in small letters and none is another one of the same
section with the lead of all variables in front. -/
inductive Regular : Outline → Prop
  | leaf : Regular .leaf
  | sections {entries : List (String × Outline)}
      (small : ∀ entry ∈ entries, Text.lower entry.1 = entry.1)
      (unlike : ∀ entry ∈ entries, ∀ other ∈ entries, Environment.lead ++ other.1 ≠ entry.1)
      (below : ∀ entry ∈ entries, Regular entry.2) : Regular (.sections entries)

/-- Whether a path leads to a setting, or out of a section by a name that is like none that the
section knows. -/
def leads : Outline → (path : List String) → Bool
  | .leaf, path => path.isEmpty
  | .sections _, [] => false
  | .sections entries, name :: rest =>
    match entries.lookup name with
    | some inner => inner.leads rest
    | none => (Environment.member? (.sections entries) name).isNone

variable {outline inner : Outline} {entries : List (String × Outline)} {name : String}
  {path rest : List String}

/-- A path through a section goes on from what its first name stands for. -/
@[simp] theorem at?_cons :
    (Outline.sections entries).at? (name :: rest) = (entries.lookup name).bind (at? · rest) :=
  rfl

/-- Only the empty path stands for something in a setting. -/
theorem eq_nil_of_at?_leaf (h : Outline.leaf.at? path = some inner) : path = [] := by
  cases path with
  | nil => rfl
  | cons name rest => simp [at?, entries] at h

/-- A path to a setting in a section has a first name. -/
theorem exists_cons_of_at?_sections (h : (Outline.sections entries).at? path = some .leaf) :
    ∃ name rest, path = name :: rest := by
  cases path with
  | nil => cases h
  | cons name rest => exact ⟨name, rest, rfl⟩

/-- A path that leads through a name the section knows leads on from there. -/
theorem leads_inner (hinner : entries.lookup name = some inner)
    (h : (Outline.sections entries).leads (name :: rest)) : inner.leads rest := by
  simpa only [leads, hinner] using h

/-- The names that a regular section knows are in small letters. -/
theorem Regular.small (h : (Outline.sections entries).Regular)
    (hinner : entries.lookup name = some inner) : Text.lower name = name := by
  cases h with | sections small unlike below
  exact small _ (Entries.mem_of_lookup hinner)

/-- What a regular section knows is regular. -/
theorem Regular.of_lookup (h : (Outline.sections entries).Regular)
    (hinner : entries.lookup name = some inner) : inner.Regular := by
  cases h with | sections small unlike below
  exact below _ (Entries.mem_of_lookup hinner)

/-- A name that a regular section knows is taken for itself. -/
theorem Regular.member?_eq (h : (Outline.sections entries).Regular)
    (hinner : entries.lookup name = some inner) :
    Environment.member? (.sections entries) name = some inner := by
  have hsmall := h.small hinner
  cases h with | sections small unlike below
  rw [Environment.member?, Outline.entries, Entries.find?_of_lookup hinner]
  · rfl
  · intro other hother
    simp [hsmall, unlike _ (Entries.mem_of_lookup hinner) other hother]

/-- A path that leads to a setting or out of a section never ends at a section. -/
theorem Regular.memberAt?_of_leads (hregular : outline.Regular) (h : outline.leads path) :
    ∀ target ∈ Environment.memberAt? outline path, target.isSection = false := by
  induction path generalizing outline with
  | nil =>
    cases outline with
    | leaf => simp [Environment.memberAt?, isSection]
    | sections entries => simp [leads] at h
  | cons name rest ih =>
    cases outline with
    | leaf => simp [leads] at h
    | sections entries =>
      have hstep : Environment.memberAt? (.sections entries) (name :: rest) =
          (Environment.member? (.sections entries) name).bind (Environment.memberAt? · rest) := rfl
      rw [hstep]
      rcases hlookup : entries.lookup name with _ | inner
      · have hnone : Environment.member? (.sections entries) name = none := by
          simpa [leads, hlookup] using h
        simp [hnone]
      · rw [hregular.member?_eq hlookup]
        exact ih (hregular.of_lookup hlookup) (leads_inner hlookup h)

end Outline

/-! ### Texts at paths -/

/-- Texts at paths of names, in the order in which they are bound. -/
abbrev Bindings := List (List String × String)

namespace Bindings

/-- Binds a text at a path. -/
def bind (fields : Fields) (path : List String) (text : String) : Fields :=
  Environment.putAt fields path.dropLast (path.getLast?.getD "") (.str text)

/-- Binds texts one after the other. -/
def bindAll (fields : Fields) (texts : Bindings) : Fields :=
  texts.foldl (fun fields (path, text) => bind fields path text) fields

/-- The texts below a name, at their paths from there on. -/
def below (texts : Bindings) (name : String) : Bindings :=
  texts.filterMap fun (path, text) =>
    match path with
    | first :: next :: rest => if first = name then some (next :: rest, text) else none
    | _ => none

/-- The text that is bound last at a path. -/
def textAt? (texts : Bindings) (path : List String) : Option String :=
  texts.reverse.lookup path

variable {fields : Fields} {texts : Bindings} {entries : List (String × Outline)} {name : String}

/-- A path of one name binds that name. -/
@[simp] theorem bind_singleton (fields : Fields) (name text : String) :
    bind fields [name] text = Entries.put fields name (.str text) :=
  rfl

/-- Texts are bound in their order. -/
@[simp] theorem bindAll_cons (fields : Fields) (path : List String) (text : String)
    (texts : Bindings) :
    bindAll fields ((path, text) :: texts) = bindAll (bind fields path text) texts :=
  rfl

/-- Binding at a path leaves every name but the first of the path as it is. -/
theorem lookup_bind_of_ne {path : List String} (h : path.head? ≠ some name) (hpath : path ≠ [])
    (text : String) : (bind fields path text).lookup name = fields.lookup name := by
  obtain ⟨first, rest, rfl⟩ := List.exists_cons_of_ne_nil hpath
  have hne : name ≠ first := fun heq => h (congrArg some heq.symm)
  cases rest with
  | nil => simp [Entries.lookup_put, hne]
  | cons next rest =>
    simp only [bind, List.dropLast_cons_cons, Environment.putAt]
    split <;> simp [Entries.lookup_put, hne]

/-- Binding at a path through an object binds inside the object, which is made if it is not
there. -/
theorem lookup_bind_cons (h : ∀ v ∈ fields.lookup name, ∃ inner, v = .object inner) (next : String)
    (rest : List String) (text : String) :
    (bind fields (name :: next :: rest) text).lookup name =
      some (.object (bind (Fields.objectAt fields name) (next :: rest) text)) := by
  simp only [bind, List.dropLast_cons_cons, List.getLast?_cons_cons, Environment.putAt,
    Fields.objectAt]
  rcases hname : fields.lookup name with _ | v
  · simp [Entries.lookup_put]
  · obtain ⟨inner, rfl⟩ := h v hname
    simp [Entries.lookup_put]

/-- Binding at a path adds no name but the first of the path. -/
theorem mem_keys_bind {path : List String} (hpath : path ≠ []) {text key : String}
    (h : key ∈ Entries.keys (bind fields path text)) :
    key ∈ Entries.keys fields ∨ path.head? = some key := by
  by_cases hhead : path.head? = some key
  · exact .inr hhead
  · refine .inl (Decidable.byContradiction fun hnew => ?_)
    rw [← Entries.lookup_eq_none_iff, ← lookup_bind_of_ne hhead hpath text,
      Entries.lookup_eq_none_iff] at hnew
    exact hnew h

/-- Binding at a path keeps names distinct. -/
theorem nodup_bind (h : (Entries.keys fields).Nodup) (path : List String) (text : String) :
    (Entries.keys (bind fields path text)).Nodup := by
  unfold bind Environment.putAt
  split
  · exact Entries.nodup_put h _ _
  · split
    · exact Entries.nodup_put h _ _
    · exact Entries.nodup_put h _ _
    · exact h

/-- Binding texts keeps names distinct. -/
theorem nodup_bindAll (h : (Entries.keys fields).Nodup) (texts : Bindings) :
    (Entries.keys (bindAll fields texts)).Nodup := by
  induction texts generalizing fields with
  | nil => exact h
  | cons binding rest ih => exact ih (nodup_bind h _ _)

/-- Fields made of texts alone have distinct names. -/
theorem nodup_bindAll_nil (texts : Bindings) : (Entries.keys (bindAll [] texts)).Nodup := by
  refine nodup_bindAll ?_ texts
  exact List.nodup_nil

/-- Every name in fields made of texts is the first of a path. -/
theorem mem_keys_bindAll (hpaths : ∀ binding ∈ texts, binding.1 ≠ []) {key : String}
    (h : key ∈ Entries.keys (bindAll fields texts)) :
    key ∈ Entries.keys fields ∨ ∃ binding ∈ texts, binding.1.head? = some key := by
  induction texts generalizing fields with
  | nil => exact .inl h
  | cons binding rest ih =>
    obtain ⟨hfirst, hrest⟩ := List.forall_mem_cons.mp hpaths
    rcases ih hrest h with hkey | ⟨other, hother, hhead⟩
    · rcases mem_keys_bind hfirst hkey with hkey | hhead
      · exact .inl hkey
      · exact .inr ⟨binding, List.mem_cons_self, hhead⟩
    · exact .inr ⟨other, List.mem_cons_of_mem _ hother, hhead⟩

/-- The text at a path is the last one bound there. -/
theorem textAt?_cons (binding : List String × String) (texts : Bindings) (path : List String) :
    textAt? (binding :: texts) path =
      (textAt? texts path).or (if path = binding.1 then some binding.2 else none) := by
  obtain ⟨bound, text⟩ := binding
  rw [textAt?, List.reverse_cons, List.lookup_append, List.lookup_cons, List.lookup_nil]
  by_cases h : path = bound
  · simp [textAt?, h]
  · simp [textAt?, h, beq_false_of_ne h]

/-- What is below a name starts with the first text if its path starts with the name and goes on. -/
theorem below_cons (binding : List String × String) (texts : Bindings) (name : String) :
    below (binding :: texts) name = below [binding] name ++ texts.below name := by
  simp only [below, ← List.filterMap_append, List.singleton_append]

/-- A path of at least two names is below its first one. -/
@[simp] theorem below_singleton (name next : String) (rest : List String) (text : String) :
    below [(name :: next :: rest, text)] name = [(next :: rest, text)] := by
  simp [below]

/-- A path is below no other name than its first. -/
theorem below_singleton_of_ne {path : List String} (h : path.head? ≠ some name) (text : String) :
    below [(path, text)] name = [] := by
  rcases path with _ | ⟨first, _ | ⟨next, rest⟩⟩
  · rfl
  · rfl
  · have hne : first ≠ name := fun heq => h (congrArg some heq)
    simp [below, hne]

/-- The text at a path of two or more names is the one below the first of them. -/
theorem textAt?_below (texts : Bindings) (name next : String) (rest : List String) :
    (texts.below name).textAt? (next :: rest) = texts.textAt? (name :: next :: rest) := by
  induction texts with
  | nil => rfl
  | cons binding texts ih =>
    obtain ⟨path, text⟩ := binding
    rw [textAt?_cons, ← ih, below_cons]
    rcases path with _ | ⟨first, _ | ⟨second, others⟩⟩
    · simp [below]
    · simp [below]
    · by_cases hname : first = name
      · subst hname
        simp [textAt?_cons]
      · rw [below_singleton_of_ne (by simpa using hname)]
        simp [Ne.symm hname]

/-! ### Fields made of texts -/

variable {inner : Outline}

/-- Paths that lead somewhere from a section have a first name. -/
theorem ne_nil_of_leads (h : ∀ binding ∈ texts, (Outline.sections entries).leads binding.1) :
    ∀ binding ∈ texts, binding.1 ≠ [] := by
  intro binding hbinding hnil
  simpa [hnil, Outline.leads] using h binding hbinding

/-- Nothing is below the name of a setting. -/
theorem below_leaf (h : ∀ binding ∈ texts, (Outline.sections entries).leads binding.1)
    (hname : entries.lookup name = some .leaf) : texts.below name = [] := by
  refine List.filterMap_eq_nil_iff.mpr fun binding hbinding => ?_
  obtain ⟨path, text⟩ := binding
  rcases path with _ | ⟨first, _ | ⟨next, rest⟩⟩
  · rfl
  · rfl
  · have hne : first ≠ name := by
      rintro rfl
      simpa [Outline.leads] using Outline.leads_inner hname (h _ hbinding)
    simp [hne]

/-- What is below the name of a section leads somewhere from that section. -/
theorem leads_below (h : ∀ binding ∈ texts, (Outline.sections entries).leads binding.1)
    (hname : entries.lookup name = some inner) :
    ∀ binding ∈ texts.below name, inner.leads binding.1 := by
  intro binding hbinding
  obtain ⟨⟨path, text⟩, hmem, hbelow⟩ := List.mem_filterMap.mp hbinding
  rcases path with _ | ⟨first, _ | ⟨next, rest⟩⟩
  · cases hbelow
  · cases hbelow
  · by_cases hfirst : first = name
    · subst hfirst
      obtain rfl : (next :: rest, text) = binding := by simpa using hbelow
      exact Outline.leads_inner hname (h _ hmem)
    · simp [hfirst] at hbelow

/-- **Under the name of a setting** fields made of texts hold the last text bound there. -/
theorem lookup_bindAll_leaf (h : ∀ binding ∈ texts, (Outline.sections entries).leads binding.1)
    (hname : entries.lookup name = some .leaf) :
    (bindAll fields texts).lookup name =
      ((texts.textAt? [name]).map Value.str).or (fields.lookup name) := by
  induction texts generalizing fields with
  | nil => rfl
  | cons binding rest ih =>
    obtain ⟨path, text⟩ := binding
    obtain ⟨hfirst, hrest⟩ := List.forall_mem_cons.mp h
    rw [bindAll_cons, ih hrest, textAt?_cons]
    by_cases hhead : path.head? = some name
    · -- the path ends at the name: nothing goes on below a setting
      obtain ⟨others, rfl⟩ := List.head?_eq_some_iff.mp hhead
      obtain rfl : others = [] := by
        simpa [Outline.leads] using Outline.leads_inner hname hfirst
      rcases textAt? rest [name] with _ | last <;> simp [Entries.lookup_put]
    · have hne : [name] ≠ path := by rintro rfl; exact hhead rfl
      rw [lookup_bind_of_ne hhead (ne_nil_of_leads h _ List.mem_cons_self)]
      simp [hne]

/-- **Under the name of a section** fields made of texts hold what the texts below it make, if there
are any. -/
theorem lookup_bindAll_section {others : List (String × Outline)}
    (h : ∀ binding ∈ texts, (Outline.sections entries).leads binding.1)
    (hname : entries.lookup name = some (.sections others))
    (hobject : ∀ v ∈ fields.lookup name, ∃ inner, v = .object inner) :
    (bindAll fields texts).lookup name =
      if texts.below name = [] then fields.lookup name
      else some (.object (bindAll (Fields.objectAt fields name) (texts.below name))) := by
  induction texts generalizing fields with
  | nil => rfl
  | cons binding rest ih =>
    obtain ⟨path, text⟩ := binding
    obtain ⟨hfirst, hrest⟩ := List.forall_mem_cons.mp h
    rw [below_cons]
    by_cases hhead : path.head? = some name
    · -- the path goes on below the name: a section is never its end
      obtain ⟨_ | ⟨next, rest'⟩, rfl⟩ := List.head?_eq_some_iff.mp hhead
      · simpa [Outline.leads] using Outline.leads_inner hname hfirst
      have hbound := lookup_bind_cons hobject next rest' text
      have hinner : Fields.objectAt (bind fields (name :: next :: rest') text) name =
          bind (Fields.objectAt fields name) (next :: rest') text := by
        rw [Fields.objectAt, hbound]
      have hmade : ∀ v ∈ (bind fields (name :: next :: rest') text).lookup name,
          ∃ inner, v = .object inner := by
        rw [hbound]
        simp
      rw [bindAll_cons, ih hrest hmade, hbound, below_singleton, hinner]
      rcases below rest name with _ | ⟨first, others⟩ <;> rfl
    · have hframe : (bind fields path text).lookup name = fields.lookup name :=
        lookup_bind_of_ne hhead (ne_nil_of_leads h _ List.mem_cons_self) text
      rw [bindAll_cons, ih hrest (by rwa [hframe]), hframe, below_singleton_of_ne hhead,
        List.nil_append, Fields.objectAt, Fields.objectAt, hframe]

/-- **Under the name of a section** fields made of texts alone hold what the texts below it make, if
there are any. -/
theorem lookup_bindAll_nil_section {others : List (String × Outline)}
    (h : ∀ binding ∈ texts, (Outline.sections entries).leads binding.1)
    (hname : entries.lookup name = some (.sections others)) :
    (bindAll [] texts).lookup name =
      if texts.below name = [] then none else some (.object (bindAll [] (texts.below name))) :=
  lookup_bindAll_section h hname nofun

end Bindings

/-! ### Variables -/

namespace Environment

variable {vars : Environment} {name : String} {outline : Outline}

/-- The variables inside a section as texts at paths. -/
def inside (vars : Environment) (name : String) : Bindings :=
  vars.filterMap fun (variableName, text) =>
    (behind? (lead ++ name ++ "__") variableName).map fun rest => (pathOf rest, text)

/-- What stands behind a lead is the rest of the name. -/
theorem behind?_eq_some_iff {lead name rest : String} :
    behind? lead name = some rest ↔ name = lead ++ rest := by
  rw [behind?, Option.map_eq_some_iff]
  constructor
  · rintro ⟨cs, hcs, rfl⟩
    rw [String.ext_iff]
    simpa using Text.dropLead?_eq_some_iff.mp hcs
  · rintro rfl
    exact ⟨rest.toList, Text.dropLead?_eq_some_iff.mpr (by simp), by simp⟩

/-- A path written with two underscores between its names is the text it was read from. -/
theorem intercalate_pathOf (s : String) : "__".intercalate (pathOf s) = s := by
  have hparts : pathOf s = (Text.splitOnChars '_' ['_'] s.toList).map String.ofList := rfl
  have hid : String.toList ∘ String.ofList = id := by funext; simp
  rw [String.ext_iff, String.toList_intercalate, hparts, List.map_map, hid, List.map_id]
  exact Text.intercalate_splitOnChars '_' ['_'] s.toList

/-- A variable is inside a section if the name of the section is in front of its own. -/
theorem inside_cons (variableName text : String) (vars : Environment) (name : String) :
    inside ((variableName, text) :: vars) name =
      ((behind? (lead ++ name ++ "__") variableName).map fun rest => (pathOf rest, text)).toList ++
        inside vars name := by
  rcases hbehind : behind? (lead ++ name ++ "__") variableName <;> simp [inside, hbehind]

/-- A variable whose path ends at no section is read as a text. -/
theorem nestedValue_eq {target : Option Outline} (h : ∀ o ∈ target, o.isSection = false)
    (text : String) : nestedValue target text = .ok (.str text) := by
  cases target with
  | none => rfl
  | some o => simp [nestedValue, h o rfl]

/-- Steps that do not fail do not fail one after the other. -/
theorem foldlM_eq_ok {α β ε : Type} {step : β → α → Except ε β} {next : β → α → β}
    {entries : List α} (h : ∀ b, ∀ a ∈ entries, step b a = .ok (next b a)) (b : β) :
    entries.foldlM step b = .ok (entries.foldl next b) := by
  induction entries generalizing b with
  | nil => rfl
  | cons a rest ih =>
    obtain ⟨hfirst, hrest⟩ := List.forall_mem_cons.mp fun a ha b => h b a ha
    rw [List.foldlM_cons, hfirst, List.foldl_cons]
    exact ih (fun b a ha => hrest a ha b) (next b a)

/-- The fields that variables give a section are made of their texts, if no path ends at a
section. -/
theorem nested_eq (hregular : outline.Regular)
    (h : ∀ binding ∈ vars.inside name, outline.leads binding.1) :
    nested vars name outline = .ok (Bindings.bindAll [] (vars.inside name)) := by
  rw [nested, Bindings.bindAll, inside, List.foldl_filterMap]
  refine foldlM_eq_ok (fun fields entry hentry => ?_) []
  obtain ⟨variableName, text⟩ := entry
  rcases hbehind : behind? (lead ++ name ++ "__") variableName with _ | rest
  · simp only [hbehind, Option.map_none]
  · have hinside : (pathOf rest, text) ∈ vars.inside name :=
      List.mem_filterMap.mpr ⟨_, hentry, by simp [hbehind]⟩
    simp only [hbehind, Option.map_some,
      nestedValue_eq (hregular.memberAt?_of_leads (h _ hinside)) text]
    rfl

/-- **The last text at a path** is the one of the variable with the name of the path. -/
theorem textAt_inside (hdistinct : (Entries.keys vars).Nodup) {path : List String}
    (hpath : pathOf ("__".intercalate path) = path) :
    (vars.inside name).textAt? path =
      vars.lookup (lead ++ name ++ "__" ++ "__".intercalate path) := by
  induction vars with
  | nil => rfl
  | cons entry vars ih =>
    obtain ⟨variableName, text⟩ := entry
    obtain ⟨hfresh, hrest⟩ := List.nodup_cons.mp hdistinct
    rw [Entries.lookup_cons, inside_cons]
    rcases hbehind : behind? (lead ++ name ++ "__") variableName with _ | rest
    · have hne : lead ++ name ++ "__" ++ "__".intercalate path ≠ variableName := by
        rintro rfl
        cases hbehind.symm.trans (behind?_eq_some_iff.mpr rfl)
      simpa [hne] using ih hrest
    · obtain rfl := behind?_eq_some_iff.mp hbehind
      by_cases hrest' : "__".intercalate path = rest
      · subst hrest'
        rw [if_pos rfl, Option.map_some, hpath]
        simp [Bindings.textAt?_cons, ih hrest, Entries.lookup_eq_none_iff.mpr hfresh]
      · have hne : path ≠ pathOf rest := by
          rintro rfl
          exact hrest' (intercalate_pathOf rest)
        simpa [Bindings.textAt?_cons, hne, hrest'] using ih hrest

end Environment

end UrlTemplate
