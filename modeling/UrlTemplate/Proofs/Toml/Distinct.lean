import UrlTemplate.Proofs.Value.Override
import UrlTemplate.Toml.Document

/-!
# The tables of a document have distinct names

A document that can be read describes distinct fields (`Toml.distinct_read`): no table in it has a
name twice. Changing the table at the end of a path keeps tables distinct if the change does
(`distinct_updateAt`). A value is distinct as it is read, by induction on the fuel
(`reads_distinct`), and so is the draft after every statement that can be carried out
(`Draft.distinct_perform?`).
-/

namespace UrlTemplate.Toml

/-- What follows a computation that succeeds together with it has got its result. -/
theorem exists_of_bind_eq_ok {ε α β : Type} {x : Except ε α} {f : α → Except ε β} {b : β}
    (h : (x >>= f) = .ok b) : ∃ a, x = .ok a ∧ f a = .ok b := by
  cases x with
  | error e => cases h
  | ok a => exact ⟨a, rfl, h⟩

/-- What is made of a result comes from a result. -/
theorem exists_of_map_eq_ok {ε α β : Type} {x : Except ε α} {f : α → β} {b : β}
    (h : x.map f = .ok b) : ∃ a, x = .ok a ∧ f a = b := by
  cases x with
  | error e => cases h
  | ok a => exact ⟨a, rfl, Except.ok.inj h⟩

/-- What a reader requires it has found. -/
theorem required_eq_ok_iff {α : Type} {found : Option α} {a : α} :
    required found = .ok a ↔ found = some a := by
  cases found <;> simp [required]

/-- What a guard lets through has a result of its own. -/
theorem eq_some_of_guard {α : Type} {c : Prop} [Decidable c] {x : Option α} {a : α}
    (h : (if c then (none : Option PUnit) >>= fun _ => x else x) = some a) : x = some a := by
  split at h
  · cases h
  · exact h

/-! ### Changing a table -/

/-- The object with some fields is distinct. -/
abbrev DistinctTable (table : Fields) : Prop :=
  (Value.object table).Distinct

/-- Binding a new name to a distinct value keeps a table distinct. -/
theorem distinct_bindNew {name : String} {v : Value} (hv : v.Distinct) {table table' : Fields}
    (h : bindNew name v table = some table') (htable : DistinctTable table) :
    DistinctTable table' := by
  unfold bindNew at h
  split at h
  · cases h
  · obtain rfl := Option.some.inj h
    exact htable.put name hv

/-- Adding to an array of tables keeps a table distinct. -/
theorem distinct_appendTable {name : String} {table table' : Fields}
    (h : appendTable name table = some table') (htable : DistinctTable table) :
    DistinctTable table' := by
  unfold appendTable at h
  split at h
  · obtain rfl := Option.some.inj h
    exact htable.put name (Value.distinct_of_not_object rfl)
  · obtain rfl := Option.some.inj h
    exact htable.put name (Value.distinct_of_not_object rfl)
  · cases h

/-- Changing the table at the end of a path keeps the tables distinct if the change does. -/
theorem distinct_updateAt {enterLists : Bool} {change : Fields → Option Fields}
    (hchange : ∀ table table', change table = some table' → DistinctTable table →
      DistinctTable table') {path : Path} {table table' : Fields}
    (h : updateAt enterLists change path table = some table') (htable : DistinctTable table) :
    DistinctTable table' := by
  induction path generalizing table table' with
  | nil => exact hchange table table' h htable
  | cons name path ih =>
    have hinner := (Value.distinct_object_iff.mp htable).2
    rw [updateAt] at h
    split at h
    · -- the table under the name is made
      obtain ⟨inner, hinner', rfl⟩ := Option.map_eq_some_iff.mp h
      exact htable.put name (ih hinner' Value.distinct_object_nil)
    · rename_i inner hlookup
      obtain ⟨inner', hinner', rfl⟩ := Option.map_eq_some_iff.mp h
      exact htable.put name (ih hinner' (hinner name _ hlookup))
    · -- no table inside an array counts as one on a path of names
      split at h
      · obtain ⟨inner, -, rfl⟩ := Option.map_eq_some_iff.mp h
        exact htable.put name (Value.distinct_of_not_object rfl)
      · cases h
    · cases h

/-- Binding a key of a table on one line to a distinct value keeps the table distinct. -/
theorem Inline.distinct_bind? {table table' : Inline} {key : Path} {v : Value} (hv : v.Distinct)
    (h : table.bind? key v = some table') (htable : DistinctTable table.fields) :
    DistinctTable table'.fields := by
  obtain ⟨fields, hfields, hsome⟩ := Option.bind_eq_some_iff.mp (eq_some_of_guard h)
  cases hsome
  exact distinct_updateAt (fun _ _ => distinct_bindNew hv) hfields htable

/-! ### Reading values -/

/-- An unsigned decimal is no object. -/
theorem isObject_decimal? {negative : Bool} {cs : List Char} {v : Value}
    (h : decimal? negative cs = some v) : v.isObject = false := by
  simp only [decimal?] at h
  split at h
  · cases h
  · obtain ⟨n, -, hv⟩ := Option.bind_eq_some_iff.mp h
    cases hv
    rfl
  · split at h
    all_goals
      obtain ⟨tail, -, h⟩ := Option.bind_eq_some_iff.mp h
      obtain ⟨x, -, hv⟩ := Option.bind_eq_some_iff.mp h
      cases hv
      rfl

/-- A number is no object. -/
theorem isObject_number? {cs : List Char} {v : Value} (h : number? cs = some v) :
    v.isObject = false := by
  have hword {negative : Bool} {rest : List Char} (hv : word? negative rest = some v) :
      v.isObject = false := by
    grind [word?, Value.isObject]
  unfold number? at h
  split at h
  iterate 3
    · obtain ⟨n, -, rfl⟩ := Option.map_eq_some_iff.mp h
      rfl
  · rcases Option.or_eq_some_iff.mp h with h | ⟨-, h⟩
    · exact hword h
    · exact isObject_decimal? h

/-- A value without quotes and brackets is no object. -/
theorem isObject_scalar {word : List Char} {v : Value} (h : scalar word = .ok v) :
    v.isObject = false := by
  unfold scalar moment at h
  grind [Value.isObject, required_eq_ok_iff, isObject_number?]

/-- A value without quotes and brackets is no object, whatever follows it. -/
theorem isObject_scalarNext {cs rest : List Char} {v : Value} (h : scalarNext cs = .ok (v, rest)) :
    v.isObject = false := by
  simp only [scalarNext, moment] at h
  split at h
  · split at h
    · split at h
      · cases h
        rfl
      · cases h
    · obtain ⟨w, hw, heq⟩ := exists_of_map_eq_ok h
      cases heq
      exact isObject_scalar hw
  · obtain ⟨w, hw, heq⟩ := exists_of_map_eq_ok h
    cases heq
    exact isObject_scalar hw

/-- **Values, tables on one line and bindings are read as distinct values.** -/
theorem reads_distinct (fuel : Nat) :
    (∀ room cs v rest, value fuel room cs = .ok (v, rest) → v.Distinct) ∧
    (∀ room table cs table' rest, bindings fuel room table cs = .ok (table', rest) →
      DistinctTable table.fields → DistinctTable table'.fields) ∧
    ∀ room cs key v rest, binding fuel room cs = .ok ((key, v), rest) → v.Distinct := by
  induction fuel with
  | zero => simp [value, bindings, binding]
  | succ fuel ih =>
    obtain ⟨hvalue, hbindings, hbinding⟩ := ih
    refine ⟨fun room cs v rest h => ?_, fun room table cs table' rest h htable => ?_,
      fun room cs key v rest h => ?_⟩
    · unfold value at h
      split at h
      · split at h
        · cases h
        · obtain ⟨found, -, heq⟩ := exists_of_map_eq_ok h
          cases heq
          exact Value.distinct_of_not_object rfl
      · split at h
        · cases h
        · split at h
          · cases h
            exact Value.distinct_object_nil
          · obtain ⟨found, hfound, heq⟩ := exists_of_map_eq_ok h
            cases heq
            exact hbindings _ _ _ _ _ hfound Value.distinct_object_nil
      · split at h
        · obtain ⟨found, -, heq⟩ := exists_of_map_eq_ok h
          cases heq
          exact Value.distinct_of_not_object rfl
        · exact Value.distinct_of_not_object (isObject_scalarNext h)
      · cases h
    · rw [bindings] at h
      obtain ⟨⟨⟨key, v⟩, rest₁⟩, hread, h⟩ := exists_of_bind_eq_ok h
      obtain ⟨table₁, hbind, h⟩ := exists_of_bind_eq_ok h
      have htable₁ := Inline.distinct_bind? (hbinding _ _ _ _ _ hread)
        (required_eq_ok_iff.mp hbind) htable
      split at h
      · cases h
        exact htable₁
      · exact hbindings _ _ _ _ _ h htable₁
      · cases h
    · rw [binding] at h
      obtain ⟨⟨key', rest₁⟩, -, h⟩ := exists_of_bind_eq_ok h
      obtain ⟨rest₂, -, h⟩ := exists_of_bind_eq_ok h
      obtain ⟨⟨v', after⟩, hread, h⟩ := exists_of_bind_eq_ok h
      cases h
      exact hvalue _ _ _ _ hread

/-! ### Statements -/

/-- A statement that binds a key binds it to a distinct value. -/
def Statement.BindsDistinct : Statement → Prop
  | .bind _ v => v.Distinct
  | .table _ => True
  | .element _ => True

/-- A statement that can be read binds distinct values. -/
theorem bindsDistinct_statement {fuel : Nat} {cs rest : List Char} {s : Statement}
    (h : statement fuel cs = .ok (s, rest)) : s.BindsDistinct := by
  unfold statement at h
  split at h
  · obtain ⟨⟨key, rest₁⟩, -, h⟩ := Option.bind_eq_some_iff.mp (required_eq_ok_iff.mp h)
    obtain ⟨rest₂, -, h⟩ := Option.bind_eq_some_iff.mp h
    obtain ⟨rest₃, -, h⟩ := Option.bind_eq_some_iff.mp h
    cases h
    trivial
  · obtain ⟨⟨key, rest₁⟩, -, h⟩ := Option.bind_eq_some_iff.mp (required_eq_ok_iff.mp h)
    obtain ⟨rest₂, -, h⟩ := Option.bind_eq_some_iff.mp h
    cases h
    trivial
  · obtain ⟨⟨⟨key, v⟩, rest₁⟩, hread, h⟩ := exists_of_bind_eq_ok h
    cases h
    exact (reads_distinct fuel).2.2 _ _ _ _ _ hread

/-- The statement on a line binds distinct values. -/
theorem bindsDistinct_line (fuel : Nat) (cs : List Char) :
    ∀ s ∈ (line fuel cs).1, s.BindsDistinct := by
  unfold line
  split
  · simp
  · split
    · rename_i hread
      intro s hs
      obtain rfl := List.mem_singleton.mp hs
      exact bindsDistinct_statement hread
    · simp

/-- The statements on lines bind distinct values. -/
theorem bindsDistinct_lines {fuel : Nat} {cs : List Char} :
    ∀ s ∈ (lines fuel cs).1, s.BindsDistinct := by
  induction fuel generalizing cs with
  | zero => simp [lines]
  | succ fuel ih =>
    rw [lines]
    split
    · simp
    · have hline := bindsDistinct_line (fuel + 1) (skipSpace cs)
      split
      · rename_i hfound
        simpa [hfound] using hline
      · rename_i hfound
        intro s hs
        rcases List.mem_append.mp hs with hs | hs
        · exact hline s (by rwa [hfound])
        · exact ih s hs

/-! ### Drafts -/

namespace Draft

/-- A statement that can be carried out keeps the table under construction distinct. -/
theorem distinct_perform? {d d' : Draft} {s : Statement} (hs : s.BindsDistinct)
    (h : d.perform? s = some d') (hd : DistinctTable d.root) : DistinctTable d'.root := by
  cases s with
  | bind key v =>
    obtain ⟨root, hroot, h⟩ := Option.bind_eq_some_iff.mp (eq_some_of_guard h)
    cases h
    exact distinct_updateAt (fun _ _ => distinct_bindNew hs) hroot hd
  | table key =>
    obtain ⟨root, hroot, h⟩ := Option.bind_eq_some_iff.mp (eq_some_of_guard h)
    cases h
    refine distinct_updateAt (fun table table' heq htable => ?_) hroot hd
    exact Option.some.inj heq ▸ htable
  | element key =>
    obtain ⟨root, hroot, h⟩ := Option.bind_eq_some_iff.mp (eq_some_of_guard h)
    cases h
    exact distinct_updateAt (fun _ _ => distinct_appendTable) hroot hd

/-- Statements that can be carried out one after the other keep it distinct. -/
theorem distinct_foldlM {statements : List Statement} (hs : ∀ s ∈ statements, s.BindsDistinct)
    {d d' : Draft} (h : statements.foldlM perform? d = some d') (hd : DistinctTable d.root) :
    DistinctTable d'.root := by
  induction statements generalizing d with
  | nil => exact Option.some.inj h ▸ hd
  | cons s statements ih =>
    obtain ⟨hfirst, hrest⟩ := List.forall_mem_cons.mp hs
    obtain ⟨d₁, hperform, h⟩ := Option.bind_eq_some_iff.mp h
    exact ih hrest h (distinct_perform? hfirst hperform hd)

end Draft

/-- **The fields that a document describes are distinct.** -/
theorem distinct_read {document : String} {fields : Fields} (h : read document = .ok fields) :
    (Value.object fields).Distinct := by
  unfold read at h
  split at h
  rename_i found fault hfound
  split at h
  · cases h
  · cases h
  · rename_i d hd
    obtain rfl := Except.ok.inj h
    have hbinds : ∀ s ∈ found, s.BindsDistinct := by
      intro s hs
      have hlines : (lines (2 * (plainLineEnds document.toList).length + 2)
        (plainLineEnds document.toList)).1 = found := congrArg Prod.fst hfound
      exact bindsDistinct_lines s (hlines ▸ hs)
    exact Draft.distinct_foldlM hbinds hd Value.distinct_object_nil

end UrlTemplate.Toml
