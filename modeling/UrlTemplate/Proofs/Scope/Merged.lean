import Mathlib.Data.List.Dedup
import UrlTemplate.Entries
import UrlTemplate.Proofs.Scope

/-!
# One scope in the place of three

All that well-formed scopes have to say about a name is its first entry that counts as present
(`Scopes.present?`, `Scopes.WellFormed.resolve_eq`): an entry that does not count as present may be
there or not. `Scopes.merged` puts these entries, one for each name, into the first scope and leaves
the others out. **Theorem** (`Scopes.WellFormed.resolve_merged`): every variable has the same value
in the merged scopes.
-/

namespace UrlTemplate

/-- The entries of an object; any other value has none. -/
def Value.entries : Value → Fields
  | .object fields => fields
  | _ => []

/-- Nothing but an object has entries. -/
theorem Value.entries_of_not_object {v : Value} (h : ¬ ∃ fields, v = .object fields) :
    v.entries = [] := by
  unfold entries
  split
  · exact absurd ⟨_, rfl⟩ h
  · rfl

/-- The field of a value that is an object, or does not count as present, is its entry. -/
theorem Value.field_eq_entry {v : Value} (h : v.truthy → ∃ fields, v = .object fields)
    (name : String) : v.field name = .ok ((v.entries.lookup name).getD .null) := by
  by_cases hobject : ∃ fields, v = .object fields
  · obtain ⟨fields, rfl⟩ := hobject
    exact Value.field_object fields name
  · rw [Value.field_of_not_truthy (Bool.eq_false_iff.mpr (mt h hobject)),
      Value.entries_of_not_object hobject]
    rfl

/-- The variables of a scope. -/
def variablesOf (scope : Value) : Fields :=
  ((scope.entries.lookup "vars").getD .null).entries

/-- The variable of a name in a scope, if there is one and it counts as present. -/
def presentIn? (scope : Value) (name : String) : Option Value :=
  ((variablesOf scope).lookup name).filter Value.truthy

/-- A look-up in a scope that is not malformed finds its variable. -/
theorem lookup_eq_variable {scope : Value} (h : ∀ fault, ¬ Malformed scope fault) (name : String) :
    lookup scope name = .ok (((variablesOf scope).lookup name).getD .null) := by
  have hscope : scope.truthy → ∃ fields, scope = .object fields := by
    intro htruthy
    by_contra hobject
    exact h _ (.scope htruthy fun fields heq => hobject ⟨fields, heq⟩)
  rw [lookup_of_field (Value.field_eq_entry hscope "vars")]
  refine Value.field_eq_entry ?_ name
  intro htruthy
  by_contra hobject
  rcases hvars : scope.entries.lookup "vars" with _ | vars
  · rw [hvars] at htruthy
    cases htruthy
  · rw [hvars] at htruthy hobject
    obtain ⟨fields, rfl⟩ : ∃ fields, scope = .object fields := by
      by_contra hno
      rw [Value.entries_of_not_object hno] at hvars
      cases hvars
    exact h _ (.vars hvars htruthy fun entries heq => hobject ⟨entries, heq⟩)

namespace Scopes

/-- The first entry of a name that counts as present, in the order in which the scopes are
consulted. -/
def present? (scopes : Scopes) (name : String) : Option Value :=
  scopes.inOrder.findSome? fun scope => presentIn? scope name

/-- What well-formed scopes say about a name is its first entry that counts as present, or the empty
text. -/
theorem WellFormed.resolve_eq {scopes : Scopes} (h : scopes.WellFormed) (name : String) :
    scopes.resolve name = .ok ((scopes.present? name).getD (.str "")) := by
  have hall (rest : List Value) (hrest : ∀ scope ∈ rest, ∀ fault, ¬ Malformed scope fault) :
      firstPresent name rest =
        .ok ((rest.findSome? fun scope => presentIn? scope name).getD (.str "")) := by
    induction rest with
    | nil => rfl
    | cons scope rest ih =>
      have hlookup := lookup_eq_variable (hrest scope List.mem_cons_self) name
      have hlater := ih fun other hother => hrest other (List.mem_cons_of_mem _ hother)
      rw [firstPresent_cons, hlookup, hlater, List.findSome?_cons, presentIn?]
      rcases (variablesOf scope).lookup name with _ | v
      · rfl
      · rcases hv : v.truthy with _ | _ <;> simp [hv, Option.filter_some]
  exact hall scopes.inOrder h

/-- Well-formed scopes with the same first present entry of a name give it the same value. -/
theorem WellFormed.resolve_congr {scopes scopes' : Scopes} (h : scopes.WellFormed)
    (h' : scopes'.WellFormed) {name : String} (heq : scopes'.present? name = scopes.present? name) :
    scopes'.resolve name = scopes.resolve name := by
  rw [h.resolve_eq, h'.resolve_eq, heq]

/-- The names of all variables, each once. -/
def names (scopes : Scopes) : List String :=
  (scopes.inOrder.flatMap fun scope => Entries.keys (variablesOf scope)).dedup

/-- The first present entries of all names. -/
def presentFields (scopes : Scopes) : Fields :=
  scopes.names.filterMap fun name => (scopes.present? name).map (name, ·)

/-- One scope of the first present entries, and nothing in the other scopes. -/
def merged (scopes : Scopes) : Scopes :=
  ⟨.object [("vars", .object scopes.presentFields)], .null, .null⟩

/-- The entries made of some names by a function are found under these names. -/
theorem lookup_filterMap {α : Type} (f : String → Option α) (names : List String) (name : String) :
    (names.filterMap fun n => (f n).map (n, ·)).lookup name =
      if name ∈ names then f name else none := by
  induction names with
  | nil => rfl
  | cons first rest ih =>
    by_cases hfirst : name = first
    · subst hfirst
      rw [if_pos List.mem_cons_self]
      rcases hf : f name with _ | v
      · rw [List.filterMap_cons_none (by rw [hf]; rfl), ih, hf, ite_self]
      · rw [List.filterMap_cons_some (by rw [hf]; rfl), Entries.lookup_cons, if_pos rfl]
    · have hmem : name ∈ first :: rest ↔ name ∈ rest := by
        simp [hfirst]
      simp only [hmem]
      rcases hf : f first with _ | v
      · rw [List.filterMap_cons_none (by rw [hf]; rfl), ih]
      · rw [List.filterMap_cons_some (by rw [hf]; rfl), Entries.lookup_cons, if_neg hfirst, ih]

/-- A name with a present entry is among the names. -/
theorem mem_names_of_present? {scopes : Scopes} {name : String} {v : Value}
    (h : scopes.present? name = some v) : name ∈ scopes.names := by
  obtain ⟨scope, hscope, hpresent⟩ := List.exists_of_findSome?_eq_some h
  obtain ⟨hlookup, -⟩ := Option.filter_eq_some_iff.mp hpresent
  obtain ⟨before, after, hvariablesOf, -⟩ := List.lookup_eq_some_iff.mp hlookup
  refine List.mem_dedup.mpr (List.mem_flatMap.mpr ⟨scope, hscope, ?_⟩)
  unfold Entries.keys
  rw [hvariablesOf]
  simp

/-- Every first present entry counts as present. -/
theorem truthy_of_present? {scopes : Scopes} {name : String} {v : Value}
    (h : scopes.present? name = some v) : v.truthy := by
  obtain ⟨scope, -, hpresent⟩ := List.exists_of_findSome?_eq_some h
  exact (Option.filter_eq_some_iff.mp hpresent).2

/-- The first present entry of a name stands among those of all names. -/
theorem lookup_presentFields (scopes : Scopes) (name : String) :
    scopes.presentFields.lookup name = scopes.present? name := by
  unfold presentFields
  rw [lookup_filterMap]
  split
  · rfl
  · rename_i hname
    rcases hpresent : scopes.present? name with _ | v
    · rfl
    · exact absurd (mem_names_of_present? hpresent) hname

/-- The names of the first present entries are distinct. -/
theorem nodup_keys_presentFields (scopes : Scopes) :
    (Entries.keys scopes.presentFields).Nodup := by
  have hsublist (names : List String) : (Entries.keys
      (names.filterMap fun name => (scopes.present? name).map (name, ·))).Sublist names := by
    unfold Entries.keys
    induction names with
    | nil => exact List.Sublist.slnil
    | cons name rest ih =>
      rcases hpresent : scopes.present? name with _ | v
      · rw [List.filterMap_cons_none (by rw [hpresent]; rfl)]
        exact ih.cons name
      · rw [List.filterMap_cons_some (by rw [hpresent]; rfl)]
        exact ih.cons_cons name
  exact (hsublist scopes.names).nodup (List.nodup_dedup _)

/-- Merged scopes are well-formed. -/
theorem wellFormed_merged (scopes : Scopes) : scopes.merged.WellFormed :=
  wellFormed_ofEvent scopes.presentFields

/-- The merged scopes have the same first present entries. -/
theorem present?_merged (scopes : Scopes) (name : String) :
    scopes.merged.present? name = scopes.present? name := by
  have hevent : presentIn? scopes.merged.event name = scopes.present? name := by
    have hvariablesOf : variablesOf scopes.merged.event = scopes.presentFields := rfl
    unfold presentIn?
    rw [hvariablesOf, lookup_presentFields]
    rcases hpresent : scopes.present? name with _ | v
    · rfl
    · rw [Option.filter_some, if_pos (truthy_of_present? hpresent)]
  show [scopes.merged.event, .null, .null].findSome? (fun scope => presentIn? scope name) = _
  rw [List.findSome?_cons, hevent]
  rcases scopes.present? name with _ | v <;> rfl

/-- **Every variable of well-formed scopes has the same value in the merged scopes.** -/
theorem WellFormed.resolve_merged {scopes : Scopes} (h : scopes.WellFormed) (name : String) :
    scopes.merged.resolve name = scopes.resolve name :=
  h.resolve_congr scopes.wellFormed_merged (scopes.present?_merged name)

end Scopes

end UrlTemplate
