import UrlTemplate.Proofs.Value.Merge

/-!
# Overriding, table by table

A value is distinct (`Value.Distinct`) if no object that a path of names leads to has a name twice,
as is the case for everything that was read from a document. The laws of merging hold for distinct
fields, and they rest on two facts about one merge: the names of the override that are new come last
(`Fields.keys_merge`), and a path that leads to an object on both sides leads to their merge
(`Fields.at?_merge_objects`). Entries with the same distinct keys are the same if they bind them to
the same (`Entries.ext_lookup`), so an equation between merges is shown key by key, by induction on
the nesting (`Fields.induction`): fields override themselves without effect (`Fields.merge_self`),
overriding twice is overriding once (`Fields.merge_merge_self`), and merging is associative as far
as the side in the middle clashes with neither of the others (`Fields.merge_assoc`).
-/

namespace UrlTemplate

/-- Entries with the same distinct keys in the same order are the same if they bind every key to the
same. -/
theorem Entries.ext_lookup {κ α : Type} [DecidableEq κ] {as bs : List (κ × α)}
    (hkeys : keys as = keys bs) (hnodup : (keys as).Nodup)
    (h : ∀ k, as.lookup k = bs.lookup k) : as = bs := by
  induction as generalizing bs with
  | nil => exact (List.map_eq_nil_iff.mp hkeys.symm).symm
  | cons a as ih =>
    cases bs with
    | nil => simp [keys] at hkeys
    | cons b bs =>
      obtain ⟨hkey, hrest⟩ : a.1 = b.1 ∧ keys as = keys bs := by simpa [keys] using hkeys
      obtain ⟨hfresh, hnodup⟩ := List.nodup_cons.mp hnodup
      have hvalue : a.2 = b.2 := by simpa [lookup_cons, hkey] using h a.1
      have htail : as = bs := by
        refine ih hrest hnodup fun k => ?_
        by_cases hk : k = a.1
        · -- the key at the front is bound in neither rest
          have hone : as.lookup k = none := lookup_eq_none_iff.mpr (hk ▸ hfresh)
          have hother : bs.lookup k = none := lookup_eq_none_iff.mpr (hk ▸ hrest ▸ hfresh)
          rw [hone, hother]
        · simpa [lookup_cons, hk, hkey ▸ hk] using h k
      rw [htail, Prod.ext hkey hvalue]

namespace Value

/-! ### Distinct names -/

/-- Whether a value is an object. -/
def isObject : Value → Bool
  | .object _ => true
  | _ => false

/-- No object that a path of names leads to has a name twice. -/
def Distinct (v : Value) : Prop :=
  ∀ path fields, v.at? path = some (.object fields) → (Entries.keys fields).Nodup

/-- A value is an object, or it is none. -/
theorem object_or_not (v : Value) : (∃ fields, v = .object fields) ∨ v.isObject = false := by
  cases v <;> simp [isObject]

/-- A value that is an object has fields. -/
theorem eq_object_of_isObject {v : Value} (h : v.isObject = true) :
    ∃ fields, v = .object fields :=
  v.object_or_not.resolve_right (by simp [h])

/-- A path of one or more names leads to a value from what is under the first name. -/
theorem at?_cons_eq_some_iff {fields : Fields} {name : String} {rest : List String} {v : Value} :
    (Value.object fields).at? (name :: rest) = some v ↔
      ∃ w, fields.lookup name = some w ∧ w.at? rest = some v := by
  rw [at?_cons, Option.bind_eq_some_iff]

/-- Only an object has an object on a path. -/
theorem isObject_of_at? {v : Value} {path : List String} {fields : Fields}
    (h : v.at? path = some (.object fields)) : v.isObject = true := by
  cases v with
  | object inner => rfl
  | _ => cases path <;> simp [at?] at h

/-- A value that is no object is distinct. -/
theorem distinct_of_not_object {v : Value} (h : v.isObject = false) : v.Distinct := by
  intro path fields hat
  rw [isObject_of_at? hat] at h
  cases h

/-- An object is distinct if its names and the values under them are. -/
theorem distinct_object_iff {fields : Fields} :
    (Value.object fields).Distinct ↔
      (Entries.keys fields).Nodup ∧ ∀ name v, fields.lookup name = some v → v.Distinct := by
  constructor
  · intro h
    refine ⟨h [] fields (at?_nil _), fun name v hv path inner hat => ?_⟩
    exact h (name :: path) inner (by simp [hv, hat])
  · rintro ⟨hnodup, hinner⟩ path inner hat
    cases path with
    | nil =>
      obtain rfl : fields = inner := by simpa using hat
      exact hnodup
    | cons name path =>
      obtain ⟨v, hv, hat⟩ := at?_cons_eq_some_iff.mp hat
      exact hinner name v hv path inner hat

/-- An object is distinct if its names and the values in its entries are. -/
theorem distinct_object_of_mem {fields : Fields} (hnodup : (Entries.keys fields).Nodup)
    (h : ∀ entry ∈ fields, entry.2.Distinct) : (Value.object fields).Distinct :=
  distinct_object_iff.mpr ⟨hnodup, fun _ _ hv => h _ (Entries.mem_of_lookup hv)⟩

/-- An object without fields is distinct. -/
theorem distinct_object_nil : (Value.object []).Distinct :=
  distinct_object_iff.mpr ⟨List.nodup_nil, by simp⟩

/-- Binding a name to a distinct value keeps an object distinct. -/
theorem Distinct.put {fields : Fields} (h : (Value.object fields).Distinct) (name : String)
    {v : Value} (hv : v.Distinct) : (Value.object (Entries.put fields name v)).Distinct := by
  obtain ⟨hnodup, hinner⟩ := distinct_object_iff.mp h
  refine distinct_object_iff.mpr ⟨Entries.nodup_put hnodup name v, fun key w hw => ?_⟩
  rw [Entries.lookup_put] at hw
  split at hw
  · obtain rfl := Option.some.inj hw
    exact hv
  · exact hinner key w hw

/-! ### Clashes -/

/-- No path of names leads to an object in one of the two and to another value in the other. -/
def NoClash (v w : Value) : Prop :=
  ∀ path, ∀ v' ∈ v.at? path, ∀ w' ∈ w.at? path, v'.isObject = w'.isObject

/-- Values that do not clash are both objects, or neither is. -/
theorem NoClash.isObject_eq {v w : Value} (h : v.NoClash w) : v.isObject = w.isObject :=
  h [] v (at?_nil v) w (at?_nil w)

/-- Values that are no objects do not clash. -/
theorem noClash_of_not_object {v w : Value} (hv : v.isObject = false) (hw : w.isObject = false) :
    v.NoClash w := by
  intro path v' hv' w' hw'
  cases path with
  | nil =>
    rw [at?_nil, Option.mem_some_iff] at hv' hw'
    rw [← hv', ← hw', hv, hw]
  | cons name rest => cases v <;> simp [at?, isObject] at hv hv'

/-- Objects do not clash if values under the same name do not. -/
theorem noClash_object_iff {a b : Fields} :
    (Value.object a).NoClash (.object b) ↔
      ∀ name, ∀ v ∈ a.lookup name, ∀ w ∈ b.lookup name, v.NoClash w := by
  constructor
  · intro h name v hv w hw path v' hv' w' hw'
    exact h (name :: path) v' (at?_cons_eq_some_iff.mpr ⟨v, hv, hv'⟩) w'
      (at?_cons_eq_some_iff.mpr ⟨w, hw, hw'⟩)
  · intro h path v' hv' w' hw'
    cases path with
    | nil =>
      rw [at?_nil, Option.mem_some_iff] at hv' hw'
      rw [← hv', ← hw', isObject, isObject]
    | cons name path =>
      obtain ⟨v, hv, hv'⟩ := at?_cons_eq_some_iff.mp hv'
      obtain ⟨w, hw, hw'⟩ := at?_cons_eq_some_iff.mp hw'
      exact h name v hv w hw path v' hv' w' hw'

/-- Objects do not clash if no entry of the first does with what the second has under its name. -/
theorem noClash_object_of_mem {a b : Fields}
    (h : ∀ entry ∈ a, ∀ w ∈ b.lookup entry.1, entry.2.NoClash w) :
    (Value.object a).NoClash (.object b) :=
  noClash_object_iff.mpr fun _ _ hv w hw => h _ (Entries.mem_of_lookup hv) w hw

end Value

namespace Fields

/-- There is an object under a name on both sides. -/
def BothObjects (base override : Fields) (name : String) : Prop :=
  ∃ b o, base.lookup name = some (.object b) ∧ override.lookup name = some (.object o)

/-- Induction on nesting: what holds of fields if it holds of the objects among them holds of all
fields. -/
theorem induction {P : Fields → Prop}
    (step : ∀ fields, (∀ name inner, fields.lookup name = some (.object inner) → P inner) →
      P fields) (fields : Fields) : P fields := by
  refine step fields fun name inner hinner => ?_
  have hsize := List.sizeOf_lt_of_mem (Entries.mem_of_lookup hinner)
  exact induction step inner
termination_by sizeOf fields
decreasing_by
  simp only [Prod.mk.sizeOf_spec, Value.object.sizeOf_spec] at hsize
  omega

/-! ### One merge -/

/-- A value that is no object takes the place of any value. -/
theorem mergeValue_of_not_object {v : Value} (h : v.isObject = false) (base : Option Value) :
    mergeValue base v = v := by
  unfold mergeValue
  split
  · cases h
  · rfl

/-- Any value takes the place of what is no object. -/
theorem mergeValue_of_base_not_object {base : Option Value} (h : ∀ b, base ≠ some (.object b))
    (v : Value) : mergeValue base v = v := by
  unfold mergeValue
  split
  · exact absurd rfl (h _)
  · rfl

/-- **The names of merged fields**: those of the base in their order, and then the new ones of the
override in theirs. -/
theorem keys_merge {override : Fields} (h : (Entries.keys override).Nodup) (base : Fields) :
    Entries.keys (merge base override) =
      Entries.keys base ++ (Entries.keys override).filter (· ∉ Entries.keys base) := by
  induction override generalizing base with
  | nil => simp [merge, Entries.keys]
  | cons entry rest ih =>
    obtain ⟨name, v⟩ := entry
    obtain ⟨hfresh, hrest⟩ := List.nodup_cons.mp h
    have hcons : Entries.keys ((name, v) :: rest) = name :: Entries.keys rest := rfl
    rw [merge, ih hrest, Entries.keys_put, hcons]
    by_cases hname : name ∈ Entries.keys base
    · rw [if_pos hname, List.filter_cons_of_neg (by simpa using hname)]
    · -- the name is in no later entry, so binding it makes no other name known
      have hsame : (Entries.keys rest).filter (· ∉ Entries.keys base ++ [name]) =
          (Entries.keys rest).filter (· ∉ Entries.keys base) := by
        refine List.filter_congr fun key hkey => ?_
        have hne : key ≠ name := fun heq => hfresh (heq ▸ hkey)
        simp [hne]
      rw [if_neg hname, hsame, List.filter_cons_of_pos (by simpa using hname), List.append_assoc,
        List.singleton_append]

/-- **A path to an object on both sides** leads to their merge. -/
theorem at?_merge_objects {base override b o : Fields} {path : List String}
    (hoverride : (Value.object override).Distinct)
    (hb : (Value.object base).at? path = some (.object b))
    (ho : (Value.object override).at? path = some (.object o)) :
    (Value.object (merge base override)).at? path = some (.object (merge b o)) := by
  induction path generalizing base override with
  | nil =>
    obtain rfl : base = b := by simpa using hb
    obtain rfl : override = o := by simpa using ho
    exact Value.at?_nil _
  | cons name path ih =>
    obtain ⟨hnodup, hinner⟩ := Value.distinct_object_iff.mp hoverride
    obtain ⟨v, hv, hb⟩ := Value.at?_cons_eq_some_iff.mp hb
    obtain ⟨w, hw, ho⟩ := Value.at?_cons_eq_some_iff.mp ho
    -- what is on the way to an object is an object
    obtain ⟨outer, rfl⟩ := Value.eq_object_of_isObject (Value.isObject_of_at? hb)
    obtain ⟨inner, rfl⟩ := Value.eq_object_of_isObject (Value.isObject_of_at? ho)
    refine Value.at?_cons_eq_some_iff.mpr ⟨.object (merge outer inner), ?_, ?_⟩
    · simp [lookup_merge hnodup, hv, hw]
    · exact ih (hinner name _ hw) hb ho

/-- Under a name that has no object on both sides, merged fields hold what the override holds, or
else what the base holds. -/
theorem lookup_merge_of_not_both {base override : Fields}
    (hnodup : (Entries.keys override).Nodup) {name : String}
    (h : ¬ BothObjects base override name) :
    (merge base override).lookup name = (override.lookup name).or (base.lookup name) := by
  have hvalue : ∀ v, override.lookup name = some v → mergeValue (base.lookup name) v = v := by
    intro v hv
    obtain ⟨o, rfl⟩ | hno := v.object_or_not
    · exact mergeValue_of_base_not_object (fun b hb => h ⟨b, o, hb, hv⟩) _
    · exact mergeValue_of_not_object hno _
  rw [lookup_merge hnodup]
  rcases hv : override.lookup name with _ | v
  · rfl
  · simp [hvalue v hv]

/-! ### Equations between merges -/

/-- Merged fields are fields with the same names and the same values under them. -/
theorem merge_eq_of_lookup {base override fields : Fields} (hbase : (Entries.keys base).Nodup)
    (hoverride : (Entries.keys override).Nodup)
    (hkeys : Entries.keys fields =
      Entries.keys base ++ (Entries.keys override).filter (· ∉ Entries.keys base))
    (h : ∀ name, ((override.lookup name).map (mergeValue (base.lookup name))).or
      (base.lookup name) = fields.lookup name) : merge base override = fields := by
  refine Entries.ext_lookup ((keys_merge hoverride base).trans hkeys.symm)
    (nodup_merge hbase override) fun name => ?_
  rw [lookup_merge hoverride, h]

/-- Fields override themselves without effect. -/
theorem merge_self {fields : Fields} (h : (Value.object fields).Distinct) :
    merge fields fields = fields := by
  induction fields using induction with
  | step fields ih =>
    obtain ⟨hnodup, hinner⟩ := Value.distinct_object_iff.mp h
    have hnew : (Entries.keys fields).filter (· ∉ Entries.keys fields) = [] := by simp
    refine merge_eq_of_lookup hnodup hnodup (by rw [hnew, List.append_nil]) fun name => ?_
    rcases hv : fields.lookup name with _ | v
    · rfl
    · have hvalue : mergeValue (some v) v = v := by
        obtain ⟨inner, rfl⟩ | hno := v.object_or_not
        · rw [mergeValue_object, ih name inner hv (hinner name _ hv)]
        · exact mergeValue_of_not_object hno _
      simp [hvalue]

/-- Overriding twice by the same is overriding once. -/
theorem merge_merge_self {base override : Fields} (hbase : (Value.object base).Distinct)
    (hoverride : (Value.object override).Distinct) :
    merge (merge base override) override = merge base override := by
  induction override using induction generalizing base with
  | step override ih =>
    obtain ⟨hnodup, hinner⟩ := Value.distinct_object_iff.mp hbase
    obtain ⟨hnodup', hinner'⟩ := Value.distinct_object_iff.mp hoverride
    have hnew : (Entries.keys override).filter (· ∉ Entries.keys (merge base override)) = [] := by
      rw [keys_merge hnodup', List.filter_eq_nil_iff]
      intro name hname
      by_cases h : name ∈ Entries.keys base <;> simp [hname, h]
    refine merge_eq_of_lookup (nodup_merge hnodup override) hnodup'
      (by rw [hnew, List.append_nil]) fun name => ?_
    rw [lookup_merge hnodup']
    rcases hw : override.lookup name with _ | w
    · rfl
    · have hvalue : mergeValue (some (mergeValue (base.lookup name) w)) w =
          mergeValue (base.lookup name) w := by
        obtain ⟨inner, rfl⟩ | hno := w.object_or_not
        · have hown := hinner' name _ hw
          by_cases hboth : ∃ outer, base.lookup name = some (.object outer)
          · obtain ⟨outer, hv⟩ := hboth
            rw [hv, mergeValue_object, mergeValue_object,
              ih name inner hw (hinner name _ hv) hown]
          · have hreplaced : mergeValue (base.lookup name) (.object inner) = .object inner :=
              mergeValue_of_base_not_object (fun outer hv => hboth ⟨outer, hv⟩) _
            rw [hreplaced, mergeValue_object, merge_self hown]
        · rw [mergeValue_of_not_object hno, mergeValue_of_not_object hno]
      simp [hvalue]

/-- Two values override a third one, or none, one after the other or as their merge. -/
theorem mergeValue_assoc {first : Option Value} {second third : Value}
    (hclash : ∀ v ∈ first, v.isObject = second.isObject)
    (hclash' : second.isObject = third.isObject)
    (h : ∀ a b c, first = some (.object a) → second = .object b → third = .object c →
      merge (merge a b) c = merge a (merge b c)) :
    mergeValue (some (mergeValue first second)) third =
      mergeValue first (mergeValue (some second) third) := by
  obtain ⟨c, rfl⟩ | hno := third.object_or_not
  · obtain ⟨b, rfl⟩ := Value.eq_object_of_isObject hclash'
    rcases first with _ | v
    · simp
    · obtain ⟨a, rfl⟩ := Value.eq_object_of_isObject (hclash v rfl)
      simp [h a b c rfl rfl rfl]
  · rw [mergeValue_of_not_object hno, mergeValue_of_not_object hno, mergeValue_of_not_object hno]

/-- Merging is associative as far as the side in the middle clashes with neither of the others. -/
theorem merge_assoc {first second third : Fields} (hfirst : (Value.object first).Distinct)
    (hsecond : (Value.object second).Distinct) (hthird : (Value.object third).Distinct)
    (hclash : (Value.object first).NoClash (.object second))
    (hclash' : (Value.object second).NoClash (.object third)) :
    merge (merge first second) third = merge first (merge second third) := by
  induction third using induction generalizing first second with
  | step third ih =>
    obtain ⟨hnodup₁, hinner₁⟩ := Value.distinct_object_iff.mp hfirst
    obtain ⟨hnodup₂, hinner₂⟩ := Value.distinct_object_iff.mp hsecond
    obtain ⟨hnodup₃, hinner₃⟩ := Value.distinct_object_iff.mp hthird
    have hnodup := nodup_merge hnodup₂ third
    have hkeys : Entries.keys (merge first (merge second third)) =
        Entries.keys (merge first second) ++
          (Entries.keys third).filter (· ∉ Entries.keys (merge first second)) := by
      rw [keys_merge hnodup, keys_merge hnodup₂, keys_merge hnodup₃, List.filter_append,
        List.filter_filter, List.append_assoc]
      congr 2
      refine List.filter_congr fun name _ => ?_
      by_cases h₁ : name ∈ Entries.keys first <;> simp [h₁]
    refine merge_eq_of_lookup (nodup_merge hnodup₁ second) hnodup₃ hkeys fun name => ?_
    rw [lookup_merge hnodup, lookup_merge hnodup₃, lookup_merge hnodup₂]
    rcases hw : third.lookup name with _ | w
    · simp
    rcases hv : second.lookup name with _ | v
    · simp
    · have hvalue : mergeValue (some (mergeValue (first.lookup name) v)) w =
          mergeValue (first.lookup name) (mergeValue (some v) w) := by
        have hinnerClash := Value.noClash_object_iff.mp hclash name
        have hinnerClash' := Value.noClash_object_iff.mp hclash' name v hv w hw
        refine mergeValue_assoc (fun u hu => (hinnerClash u hu v hv).isObject_eq)
          hinnerClash'.isObject_eq ?_
        rintro a b c ha rfl rfl
        exact ih name c hw (hinner₁ name _ ha) (hinner₂ name _ hv) (hinner₃ name _ hw)
          (hinnerClash _ ha _ hv) hinnerClash'
      simp [hvalue]

/-- A side in the middle that is no object cuts the objects around it off from each other. -/
example :
    let first : Fields := [("k", .object [("a", .null)])]
    let second : Fields := [("k", .int 1)]
    let third : Fields := [("k", .object [("b", .null)])]
    merge (merge first second) third = third ∧
      merge first (merge second third) = [("k", .object [("a", .null), ("b", .null)])] := by
  decide +kernel

end Fields

end UrlTemplate
