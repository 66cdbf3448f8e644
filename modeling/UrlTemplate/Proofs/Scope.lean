import UrlTemplate.Scope

/-!
# Which scopes are consulted, and what is wrong with them

`Malformed` says what a scope must not be: something that counts as present, but is no object, or an
object whose entry of variables is such a thing. A look-up faults exactly on a malformed scope,
whatever the name (`lookup_eq_error_iff`). `Scopes.Consults` says when the look-up of a variable
comes upon a malformed scope: no scope before it has a value that counts as present. **Theorem**
(`resolve_eq_error_iff`): the value of a variable is a fault exactly then. In well-formed scopes
every variable has a value (`WellFormed.exists_resolve`), which is the empty text or stands in one
of them (`resolve_eq_ok`), and scopes that agree on a name give it one value (`resolve_congr`).
-/

namespace UrlTemplate

/-- What is wrong with a value in the place of a scope. -/
inductive Malformed : Value → ScopeFault → Prop
  /-- The scope counts as present and is no object. -/
  | scope {scope : Value} : scope.truthy → (∀ fields, scope ≠ .object fields) →
      Malformed scope ⟨scope.kind⟩
  /-- The variables of the scope count as present and are no object. -/
  | vars {fields : Fields} {vars : Value} : fields.lookup "vars" = some vars → vars.truthy →
      (∀ fields', vars ≠ .object fields') → Malformed (.object fields) ⟨vars.kind⟩

/-- The field of an object is its entry, or `null`. -/
theorem Value.field_object (fields : Fields) (name : String) :
    (Value.object fields).field name = .ok ((fields.lookup name).getD .null) := by
  unfold Value.field
  cases fields with
  | nil => rfl
  | cons entry fields => rfl

/-- A value that does not count as present has no fields. -/
theorem Value.field_of_not_truthy {v : Value} (h : v.truthy = false) (name : String) :
    v.field name = .ok .null := by
  unfold Value.field
  rw [h]
  rfl

/-- Asking for a field faults on a value that counts as present and is no object. -/
theorem Value.field_eq_error_iff {v : Value} {name : String} {fault : ScopeFault} :
    v.field name = .error fault ↔
      v.truthy ∧ (∀ fields, v ≠ .object fields) ∧ fault = ⟨v.kind⟩ := by
  cases htruthy : v.truthy with
  | false =>
    rw [Value.field_of_not_truthy htruthy]
    simp
  | true =>
    cases v with
    | object fields =>
      rw [Value.field_object]
      simp
    | _ => simp [Value.field, htruthy, eq_comm]

/-- A field that counts as present is an entry of an object. -/
theorem Value.eq_object_of_field {v w : Value} {name : String} (h : v.field name = .ok w)
    (hw : w.truthy) : ∃ fields, v = .object fields ∧ fields.lookup name = some w := by
  cases htruthy : v.truthy with
  | false =>
    rw [Value.field_of_not_truthy htruthy, Except.ok.injEq] at h
    rw [← h] at hw
    cases hw
  | true =>
    cases v with
    | object fields =>
      rw [Value.field_object, Except.ok.injEq] at h
      refine ⟨fields, rfl, ?_⟩
      cases hlookup : fields.lookup name with
      | some entry => rw [← h, hlookup, Option.getD_some]
      | none =>
        rw [hlookup, Option.getD_none] at h
        rw [← h] at hw
        cases hw
    | _ => simp [Value.field, htruthy] at h

/-- A look-up in a scope is a look-up in its variables. -/
theorem lookup_of_field {scope vars : Value} (h : scope.field "vars" = .ok vars) (name : String) :
    lookup scope name = vars.field name := by
  unfold lookup
  rw [h]
  rfl

/-- A look-up faults exactly on a malformed scope, whatever the name is. -/
theorem lookup_eq_error_iff {scope : Value} {name : String} {fault : ScopeFault} :
    lookup scope name = .error fault ↔ Malformed scope fault := by
  constructor
  · intro h
    cases hvars : scope.field "vars" with
    | error fault' =>
      obtain ⟨htruthy, hobject, rfl⟩ := Value.field_eq_error_iff.mp hvars
      unfold lookup at h
      rw [hvars] at h
      cases h
      exact .scope htruthy hobject
    | ok vars =>
      rw [lookup_of_field hvars] at h
      obtain ⟨htruthy, hobject, rfl⟩ := Value.field_eq_error_iff.mp h
      obtain ⟨fields, rfl, hlookup⟩ := Value.eq_object_of_field hvars htruthy
      exact .vars hlookup htruthy hobject
  · intro h
    cases h with
    | scope htruthy hobject =>
      unfold lookup
      rw [Value.field_eq_error_iff.mpr ⟨htruthy, hobject, rfl⟩]
      rfl
    | @vars fields vars hlookup htruthy hobject =>
      have hvars : (Value.object fields).field "vars" = .ok vars := by
        rw [Value.field_object, hlookup, Option.getD_some]
      rw [lookup_of_field hvars]
      exact Value.field_eq_error_iff.mpr ⟨htruthy, hobject, rfl⟩

namespace Scopes

/-- The look-up of a name comes upon a malformed scope: none before it is malformed or has a value
of that name that counts as present. -/
def Consults (scopes : Scopes) (name : String) (fault : ScopeFault) : Prop :=
  ∃ before scope after, scopes.inOrder = before ++ scope :: after ∧
    (∀ earlier ∈ before, ∃ v, lookup earlier name = .ok v ∧ v.truthy = false) ∧
    Malformed scope fault

/-- None of the scopes is malformed. -/
def WellFormed (scopes : Scopes) : Prop :=
  ∀ scope ∈ scopes.inOrder, ∀ fault, ¬ Malformed scope fault

/-- The first scope decides about the first value that counts as present, unless it has none. -/
theorem firstPresent_cons (name : String) (scope : Value) (rest : List Value) :
    firstPresent name (scope :: rest) =
      match lookup scope name with
      | .error fault => .error fault
      | .ok v => if v.truthy then .ok v else firstPresent name rest := by
  rw [firstPresent]
  cases lookup scope name <;> rfl

/-- Scopes looked through for a name give a fault exactly if a malformed one is reached. -/
theorem firstPresent_eq_error_iff {name : String} {scopes : List Value} {fault : ScopeFault} :
    firstPresent name scopes = .error fault ↔
      ∃ before scope after, scopes = before ++ scope :: after ∧
        (∀ earlier ∈ before, ∃ v, lookup earlier name = .ok v ∧ v.truthy = false) ∧
        Malformed scope fault := by
  induction scopes with
  | nil => simp [firstPresent]
  | cons scope rest ih =>
    rw [firstPresent_cons]
    constructor
    · intro h
      cases hlookup : lookup scope name with
      | error fault' =>
        rw [hlookup] at h
        cases h
        exact ⟨[], scope, rest, rfl, by simp, lookup_eq_error_iff.mp hlookup⟩
      | ok v =>
        rw [hlookup] at h
        cases htruthy : v.truthy with
        | true => simp [htruthy] at h
        | false =>
          simp only [htruthy, Bool.false_eq_true, if_false] at h
          obtain ⟨before, scope', after, rfl, hbefore, hmal⟩ := ih.mp h
          refine ⟨scope :: before, scope', after, rfl, ?_, hmal⟩
          intro earlier hmem
          rcases List.mem_cons.mp hmem with rfl | hmem
          · exact ⟨v, hlookup, htruthy⟩
          · exact hbefore earlier hmem
    · rintro ⟨before, scope', after, heq, hbefore, hmal⟩
      cases before with
      | nil =>
        obtain ⟨rfl, rfl⟩ := List.cons.inj heq
        rw [lookup_eq_error_iff.mpr hmal]
      | cons first before =>
        obtain ⟨rfl, rfl⟩ := List.cons.inj heq
        obtain ⟨v, hlookup, htruthy⟩ := hbefore scope List.mem_cons_self
        rw [hlookup]
        simp only [htruthy, Bool.false_eq_true, if_false]
        exact ih.mpr ⟨before, scope', after, rfl,
          fun earlier hmem => hbefore earlier (List.mem_cons_of_mem _ hmem), hmal⟩

/-- **The value of a variable is a fault exactly if its look-up comes upon a malformed scope.** -/
theorem resolve_eq_error_iff {scopes : Scopes} {name : String} {fault : ScopeFault} :
    scopes.resolve name = .error fault ↔ scopes.Consults name fault :=
  firstPresent_eq_error_iff

/-- In well-formed scopes no look-up comes upon a malformed scope. -/
theorem WellFormed.not_consults {scopes : Scopes} (h : scopes.WellFormed) (name : String)
    (fault : ScopeFault) : ¬ scopes.Consults name fault := by
  rintro ⟨before, scope, after, heq, -, hmal⟩
  exact h scope (by rw [heq]; simp) fault hmal

/-- In well-formed scopes every variable has a value. -/
theorem WellFormed.exists_resolve {scopes : Scopes} (h : scopes.WellFormed) (name : String) :
    ∃ v, scopes.resolve name = .ok v := by
  cases hres : scopes.resolve name with
  | ok v => exact ⟨v, rfl⟩
  | error fault => exact absurd (resolve_eq_error_iff.mp hres) (h.not_consults name fault)

/-- Whether scopes are well-formed is seen from the look-up of any one name. -/
instance decidableWellFormed (scopes : Scopes) : Decidable scopes.WellFormed :=
  decidable_of_iff (∀ scope ∈ scopes.inOrder, (lookup scope "").toOption.isSome) <| by
    unfold WellFormed
    refine forall₂_congr ?_
    intro scope _
    cases hlookup : lookup scope "" with
    | error fault =>
      simp only [Except.toOption, Option.isSome_none, Bool.false_eq_true, false_iff]
      intro h
      exact h fault (lookup_eq_error_iff.mp hlookup)
    | ok v =>
      simp only [Except.toOption, Option.isSome_some, true_iff]
      intro fault hmal
      rw [lookup_eq_error_iff.mpr hmal] at hlookup
      cases hlookup

/-- A value found in some scopes is the empty text or stands in one of them under its name. -/
theorem firstPresent_eq_ok {name : String} {scopes : List Value} {v : Value}
    (h : firstPresent name scopes = .ok v) :
    v = .str "" ∨ ∃ scope ∈ scopes, lookup scope name = .ok v := by
  induction scopes with
  | nil =>
    rw [firstPresent, Except.ok.injEq] at h
    exact .inl h.symm
  | cons scope rest ih =>
    rw [firstPresent_cons] at h
    cases hlookup : lookup scope name with
    | error fault =>
      rw [hlookup] at h
      cases h
    | ok w =>
      rw [hlookup] at h
      by_cases htruthy : w.truthy
      · simp only [htruthy, if_true, Except.ok.injEq] at h
        exact .inr ⟨scope, List.mem_cons_self, by rw [hlookup, h]⟩
      · simp only [htruthy, Bool.false_eq_true, if_false] at h
        rcases ih h with hempty | ⟨scope', hmem, hscope'⟩
        · exact .inl hempty
        · exact .inr ⟨scope', List.mem_cons_of_mem _ hmem, hscope'⟩

/-- The value of a variable is the empty text or stands in one of the scopes under its name. -/
theorem resolve_eq_ok {scopes : Scopes} {name : String} {v : Value}
    (h : scopes.resolve name = .ok v) :
    v = .str "" ∨ ∃ scope ∈ scopes.inOrder, lookup scope name = .ok v :=
  firstPresent_eq_ok h

/-- Scopes in which a name is looked up with the same results give it the same value. -/
theorem resolve_congr {scopes scopes' : Scopes} {name : String}
    (hevent : lookup scopes.event name = lookup scopes'.event name)
    (htrigger : lookup scopes.trigger name = lookup scopes'.trigger name)
    (hconfig : lookup scopes.config name = lookup scopes'.config name) :
    scopes.resolve name = scopes'.resolve name := by
  unfold resolve inOrder
  simp only [firstPresent_cons, hevent, htrigger, hconfig]

/-- Scopes of which that of the event alone has variables. -/
def ofEvent (vars : Fields) : Scopes :=
  ⟨.object [("vars", .object vars)], .null, .null⟩

/-- The event has a variable if its variables do. -/
theorem lookup_ofEvent (vars : Fields) (name : String) :
    lookup (ofEvent vars).event name = .ok ((vars.lookup name).getD .null) := by
  have hvars : (ofEvent vars).event.field "vars" = .ok (.object vars) := by
    rw [ofEvent, Value.field_object]
    rfl
  rw [lookup_of_field hvars, Value.field_object]

/-- Scopes of an event are well-formed. -/
theorem wellFormed_ofEvent (vars : Fields) : (ofEvent vars).WellFormed := by
  intro scope hscope fault hmalformed
  simp only [inOrder, ofEvent, List.mem_cons, List.not_mem_nil, or_false] at hscope
  rcases hscope with rfl | rfl | rfl
  · cases hmalformed with
    | scope _ hobject => exact hobject _ rfl
    | vars hlookup _ hobject =>
      cases hlookup
      exact hobject _ rfl
  · cases hmalformed with
    | scope htruthy _ => cases htruthy
  · cases hmalformed with
    | scope htruthy _ => cases htruthy

/-- A variable of the event that is present is what its name stands for. -/
theorem resolve_ofEvent {vars : Fields} {name : String} {v : Value} (h : vars.lookup name = some v)
    (hv : v.truthy = true) : (ofEvent vars).resolve name = .ok v := by
  have hevent : lookup (ofEvent vars).event name = .ok v := by
    rw [lookup_ofEvent, h, Option.getD_some]
  simp only [resolve, inOrder, firstPresent_cons, hevent, hv, if_true]

end Scopes

end UrlTemplate
