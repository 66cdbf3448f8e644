import UrlTemplate.Value.Merge

/-!
# Merging along a path

`Value.at?` is what a path of names leads to, and a value is open along a path (`Value.Opens`) if
all that lies on the way, the end apart, is an object with distinct names. **Theorem**
(`Fields.at?_merge`): where both sides are open, merged fields hold at the end of a path what the
override holds there, and otherwise what the base holds. Two objects at the end are merged in turn,
which changes their fields and nothing else, so the theorem is about values without their fields
(`Value.emptied`). Merged fields are open again (`Fields.opens_merge`), so that layers can be
stacked.
-/

namespace UrlTemplate

/-! ### What a path leads to -/

namespace Value

/-- The value that a path of names leads to. -/
def at? : Value → (path : List String) → Option Value
  | v, [] => some v
  | .object fields, name :: rest => (fields.lookup name).bind (at? · rest)
  | _, _ :: _ => none

/-- Whether what lies on the way along a path, the end apart, is an object with distinct names as
far as it is there. -/
def Opens : Value → (path : List String) → Prop
  | _, [] => True
  | .object fields, name :: rest =>
    (Entries.keys fields).Nodup ∧ ∀ v ∈ fields.lookup name, v.Opens rest
  | _, _ :: _ => False

/-- A value without its fields, if it is an object. -/
def emptied : Value → Value
  | .object _ => .object []
  | v => v

/-- Every value leads to itself. -/
@[simp] theorem at?_nil (v : Value) : v.at? [] = some v := by
  simp only [at?]

/-- The first name of a path is looked up in an object. -/
@[simp] theorem at?_cons (fields : Fields) (name : String) (rest : List String) :
    (Value.object fields).at? (name :: rest) = (fields.lookup name).bind (at? · rest) := by
  simp only [at?]

/-- Nothing is in the way of the empty path. -/
@[simp] theorem opens_nil (v : Value) : v.Opens [] := by
  simp only [Opens]

/-- An object is open along a path if its names are distinct and what the first name of the path
stands for is open along the others. -/
@[simp] theorem opens_cons (fields : Fields) (name : String) (rest : List String) :
    (Value.object fields).Opens (name :: rest) ↔
      (Entries.keys fields).Nodup ∧ ∀ v ∈ fields.lookup name, v.Opens rest := by
  simp only [Opens]

/-- Whether a value is open along a path can be decided. -/
instance decOpens : (v : Value) → (path : List String) → Decidable (v.Opens path)
  | v, [] => isTrue (opens_nil v)
  | .object fields, name :: rest =>
    have := fun v : Value => decOpens v rest
    decidable_of_iff _ (opens_cons fields name rest).symm
  | .null, _ :: _ | .bool _, _ :: _ | .int _, _ :: _ | .float _, _ :: _ | .str _, _ :: _
  | .brokenText, _ :: _ | .list _, _ :: _ => isFalse fun h => by simp only [Opens] at h

/-- What is open along a path with a name in it is an object. -/
theorem Opens.eq_object {v : Value} {name : String} {rest : List String}
    (h : v.Opens (name :: rest)) : ∃ fields, v = .object fields := by
  cases v with
  | object fields => exact ⟨fields, rfl⟩
  | _ => simp only [Opens] at h

/-- No fields are in the way of any path. -/
theorem opens_object_nil (path : List String) : (Value.object []).Opens path := by
  cases path with
  | nil => exact opens_nil _
  | cons name rest => simp [Entries.keys]

end Value

namespace Fields

/-- The object under a name, which is empty if there is none. -/
def objectAt (fields : Fields) (name : String) : Fields :=
  match fields.lookup name with
  | some (.object inner) => inner
  | _ => []

/-- A path of two or more names goes on in the object under the first. -/
theorem at?_objectAt (fields : Fields) (name next : String) (rest : List String) :
    (Value.object (objectAt fields name)).at? (next :: rest) =
      (Value.object fields).at? (name :: next :: rest) := by
  rw [Value.at?_cons fields, objectAt]
  rcases fields.lookup name with _ | v
  · rfl
  · cases v <;> rfl

/-- The object under the first name of a path is open along the rest. -/
theorem opens_objectAt {fields : Fields} {name next : String} {rest : List String}
    (h : (Value.object fields).Opens (name :: next :: rest)) :
    (Value.object (objectAt fields name)).Opens (next :: rest) := by
  obtain ⟨-, hopen⟩ := (Value.opens_cons _ _ _).mp h
  rw [objectAt]
  rcases hv : fields.lookup name with _ | v
  · exact Value.opens_object_nil _
  · obtain ⟨inner, rfl⟩ := (hopen v hv).eq_object
    exact hopen _ hv

/-- The object that a path of names leads to, which is empty if there is none. -/
def inside (fields : Fields) : (path : List String) → Fields
  | [] => fields
  | name :: rest => inside (objectAt fields name) rest

/-- The end of a path is looked up in the object that the others lead to. -/
theorem at?_concat (fields : Fields) (path : List String) (name : String) :
    (Value.object fields).at? (path ++ [name]) = (inside fields path).lookup name := by
  induction path generalizing fields with
  | nil =>
    rw [List.nil_append, Value.at?_cons, inside]
    rcases fields.lookup name with _ | v
    · rfl
    · exact Value.at?_nil v
  | cons first rest ih =>
    obtain ⟨next, others, hrest⟩ : ∃ next others, rest ++ [name] = next :: others :=
      List.exists_cons_of_ne_nil (by simp)
    rw [List.cons_append, hrest, ← at?_objectAt, ← hrest, ih, inside]

/-! ### Merging -/

/-- Without another value under its key, a value of the override is as it is. -/
@[simp] theorem mergeValue_none (v : Value) : mergeValue none v = v := by
  simp [mergeValue]

/-- Two objects are merged in turn. -/
@[simp] theorem mergeValue_object (base override : Fields) :
    mergeValue (some (.object base)) (.object override) = .object (merge base override) := by
  simp [mergeValue]

/-- What is there changes no value of the override but the fields of an object. -/
@[simp] theorem emptied_mergeValue (base : Option Value) (v : Value) :
    (mergeValue base v).emptied = v.emptied := by
  unfold mergeValue
  split <;> rfl

/-- A text takes the place of any value. -/
@[simp] theorem mergeValue_str (base : Option Value) (s : String) :
    mergeValue base (.str s) = .str s := by
  unfold mergeValue
  split
  · rename_i heq
    cases heq
  · rfl

/-- **A key of merged fields**: what the override has under it, merged with what the base has, or
what the base has. -/
theorem lookup_merge {override : Fields} (h : (Entries.keys override).Nodup) (base : Fields)
    (key : String) :
    (merge base override).lookup key =
      ((override.lookup key).map (mergeValue (base.lookup key))).or (base.lookup key) := by
  induction override generalizing base with
  | nil => simp [merge]
  | cons entry rest ih =>
    obtain ⟨k, v⟩ := entry
    obtain ⟨hfresh, hrest⟩ := List.nodup_cons.mp h
    rw [merge, ih hrest, Entries.lookup_put, Entries.lookup_cons]
    by_cases hk : key = k
    · subst hk
      simp [Entries.lookup_eq_none_iff.mpr hfresh]
    · simp [hk]

/-- Merging keeps keys distinct. -/
theorem nodup_merge {base : Fields} (h : (Entries.keys base).Nodup) (override : Fields) :
    (Entries.keys (merge base override)).Nodup := by
  induction override generalizing base with
  | nil => simpa [merge] using h
  | cons entry rest ih => exact ih (Entries.nodup_put h entry.1 _)

/-- **Merging along a path**: the end holds what the override has there, or what the base has. -/
theorem at?_merge {base override : Fields} {path : List String}
    (hbase : (Value.object base).Opens path) (hoverride : (Value.object override).Opens path)
    (hpath : path ≠ []) :
    ((Value.object (merge base override)).at? path).map Value.emptied =
      (((Value.object override).at? path).or ((Value.object base).at? path)).map Value.emptied := by
  induction path generalizing base override with
  | nil => exact absurd rfl hpath
  | cons name rest ih =>
    obtain ⟨-, hb⟩ := (Value.opens_cons _ _ _).mp hbase
    obtain ⟨hnodup, ho⟩ := (Value.opens_cons _ _ _).mp hoverride
    simp only [Value.at?_cons, lookup_merge hnodup]
    rcases hv : override.lookup name with _ | v
    · simp
    · cases rest with
      | nil => simp
      | cons next rest =>
        obtain ⟨inner, rfl⟩ := (ho v hv).eq_object
        rcases hw : base.lookup name with _ | w
        · simp
        · obtain ⟨outer, rfl⟩ := (hb w hw).eq_object
          simpa using ih (hb _ hw) (ho _ hv) (List.cons_ne_nil _ _)

/-- Merged fields are open where both sides are. -/
theorem opens_merge {base override : Fields} {path : List String}
    (hbase : (Value.object base).Opens path) (hoverride : (Value.object override).Opens path) :
    (Value.object (merge base override)).Opens path := by
  induction path generalizing base override with
  | nil => exact Value.opens_nil _
  | cons name rest ih =>
    obtain ⟨hbaseNodup, hb⟩ := (Value.opens_cons _ _ _).mp hbase
    obtain ⟨hnodup, ho⟩ := (Value.opens_cons _ _ _).mp hoverride
    refine (Value.opens_cons _ _ _).mpr ⟨nodup_merge hbaseNodup override, ?_⟩
    rw [lookup_merge hnodup]
    rcases hv : override.lookup name with _ | v
    · simpa using hb
    · rintro merged hmerged
      obtain rfl : mergeValue (base.lookup name) v = merged := by simpa using hmerged
      cases rest with
      | nil => exact Value.opens_nil _
      | cons next rest =>
        obtain ⟨inner, rfl⟩ := (ho v hv).eq_object
        rcases hw : base.lookup name with _ | w
        · simpa using ho _ hv
        · obtain ⟨outer, rfl⟩ := (hb w hw).eq_object
          simpa only [mergeValue_object] using ih (hb _ hw) (ho _ hv)

/-- Fields with new names are added behind the others. -/
theorem merge_eq_append {base override : Fields}
    (h : (Entries.keys (base ++ override)).Nodup) : merge base override = base ++ override := by
  induction override generalizing base with
  | nil => simp [merge]
  | cons entry rest ih =>
    obtain ⟨key, v⟩ := entry
    have hsplit : base ++ (key, v) :: rest = base ++ [(key, v)] ++ rest := by simp
    have hnew : key ∉ Entries.keys base := by
      intro hmem
      rw [Entries.keys, List.map_append, List.nodup_append] at h
      exact h.2.2 key hmem key List.mem_cons_self rfl
    rw [hsplit] at h ⊢
    rw [merge, Entries.lookup_eq_none_iff.mpr hnew, mergeValue_none,
      Entries.put_of_not_mem hnew, ih h]

/-- Where there is nothing to override, fields with distinct names are as they are. -/
theorem merge_nil_left {override : Fields} (h : (Entries.keys override).Nodup) :
    merge [] override = override :=
  merge_eq_append h

end Fields

end UrlTemplate
