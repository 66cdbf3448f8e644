import UrlTemplate.Proofs.Expansion.Writing

/-!
# The one way in which an expansion fails

With handlers that answer values with values, or fail, nothing inside a slot makes an expansion fail
but a malformed scope that the slot has to consult. `Scopes.referenced` lists the variables that the
slots of a template refer to, depth first and from left to right, through as many levels as the
budget allows. **Theorem** (`Service.expand_error_iff`): a request for a text fails exactly if one
of these variables comes upon a malformed scope, with the fault of the first of them; else it
comes to a text. That is what is answered where everything can be written.

The proof goes through `EndsBy`, which says at once what happens with a fault and without one; it
passes from the slots to the template by `endsBy_runAll`, and from level to level by induction.
-/

namespace UrlTemplate

open Template

namespace Scopes

/-- The fault that the look-up of a variable ends with, if it does. -/
def fault? (scopes : Scopes) (name : String) : Option ScopeFault :=
  match scopes.resolve name with
  | .error fault => some fault
  | .ok _ => none

/-- The variable that the body of a slot refers to and, if it is a text, those that its text refers
to. -/
def referencedBy (scopes : Scopes) (deeper : List Char → List String) (body : List Char) :
    List String :=
  match readSlot body with
  | .error _ => []
  | .ok p =>
    p.reference.name :: match scopes.resolve p.reference.name with
      | .ok (.str s) => deeper s.toList
      | _ => []

/-- The variables that the slots of a template refer to through some levels, depth first and from
left to right. -/
def referenced (scopes : Scopes) : (levels : Nat) → (template : List Char) → List String
  | 0, _ => []
  | levels + 1, template =>
    (scan template).slots.flatMap fun slot =>
      scopes.referencedBy (scopes.referenced levels) slot.body

/-- The look-up of a variable ends with a fault exactly if it comes upon a malformed scope. -/
theorem fault?_eq_some_iff {scopes : Scopes} {name : String} {fault : ScopeFault} :
    scopes.fault? name = some fault ↔ scopes.Consults name fault := by
  rw [← resolve_eq_error_iff]
  unfold fault?
  cases scopes.resolve name <;> simp

/-- The look-up of a variable ends with no fault exactly if it comes upon no malformed scope. -/
theorem fault?_eq_none_iff {scopes : Scopes} {name : String} :
    scopes.fault? name = none ↔ ∀ fault, ¬ scopes.Consults name fault := by
  constructor
  · intro h fault hfault
    rw [fault?_eq_some_iff.mpr hfault] at h
    cases h
  · intro h
    cases hfault : scopes.fault? name with
    | none => rfl
    | some fault => exact absurd (fault?_eq_some_iff.mp hfault) (h fault)

end Scopes

/-! ### Ending by a fault or with success -/

/-- Ends with the fault if there is one, and with a success if there is none. -/
def EndsBy {α : Type} (fault : Option ScopeFault) (result : Except ExpansionError α) : Prop :=
  match fault with
  | some fault => result = .error (.scope fault)
  | none => ∃ a, result = .ok a

/-- A row of tasks ends by the first fault among them. -/
theorem endsBy_runAll {α : Type} {xs : List α} {fault : α → Option ScopeFault} {task : α → Task}
    (h : ∀ a ∈ xs, EndsBy (fault a) (task a).run.result) :
    EndsBy (xs.findSome? fault) (Task.runAll (xs.map task)).result := by
  induction xs with
  | nil => exact ⟨[], by rw [List.map_nil, Task.runAll_nil]⟩
  | cons a xs ih =>
    have hfirst := h a List.mem_cons_self
    have hrest := ih fun b hb => h b (List.mem_cons_of_mem _ hb)
    rw [List.map_cons, Task.result_runAll_cons, List.findSome?_cons]
    cases ha : fault a with
    | some f =>
      rw [ha] at hfirst
      have herror : (task a).run.result = .error (.scope f) := hfirst
      rw [herror]
      exact rfl
    | none =>
      rw [ha] at hfirst
      obtain ⟨piece, hpiece⟩ := hfirst
      rw [hpiece]
      cases hxs : xs.findSome? fault with
      | some f =>
        rw [hxs] at hrest
        have herror : (Task.runAll (xs.map task)).result = .error (.scope f) := hrest
        rw [herror]
        exact rfl
      | none =>
        rw [hxs] at hrest
        obtain ⟨pieces, hpieces⟩ := hrest
        rw [hpieces]
        exact ⟨piece :: pieces, rfl⟩

/-- The first hit in a row of lists is the first hit of the first list that has one. -/
theorem findSome?_flatMap {α β γ : Type} (xs : List α) (f : α → List β) (hit : β → Option γ) :
    (xs.flatMap f).findSome? hit = xs.findSome? fun a => (f a).findSome? hit := by
  induction xs with
  | nil => rfl
  | cons a xs ih =>
    rw [List.flatMap_cons, List.findSome?_append, List.findSome?_cons, ih]
    cases (f a).findSome? hit <;> rfl

/-- What is made of a success changes nothing about how a result ends. -/
theorem EndsBy.map {α β : Type} {fault : Option ScopeFault} {result : Except ExpansionError α}
    (h : EndsBy fault result) (f : α → β) : EndsBy fault (result.map f) := by
  cases fault with
  | some fault =>
    have herror : result = .error (.scope fault) := h
    rw [herror]
    exact rfl
  | none =>
    obtain ⟨a, ha⟩ := h
    rw [ha]
    exact ⟨f a, rfl⟩

/-- What always succeeds after an outcome changes nothing about how it ends. -/
theorem EndsBy.andThen {α β : Type} {fault : Option ScopeFault} {first : Outcome α}
    (h : EndsBy fault first.result) {next : α → Outcome β}
    (hnext : ∀ a, ∃ b, (next a).result = .ok b) : EndsBy fault (first.andThen next).result := by
  cases fault with
  | some fault =>
    have herror : first.result = .error (.scope fault) := h
    rw [Outcome.andThen_of_error herror]
    exact rfl
  | none =>
    obtain ⟨a, ha⟩ := h
    rw [Outcome.andThen_of_ok ha]
    exact hnext a

/-- What ends by the first fault among some variables succeeds exactly if none of them comes upon a
malformed scope. -/
theorem EndsBy.ok_iff {α : Type} {scopes : Scopes} {names : List String}
    {result : Except ExpansionError α} (h : EndsBy (names.findSome? scopes.fault?) result) :
    (∃ a, result = .ok a) ↔ ∀ name ∈ names, ∀ fault, ¬ scopes.Consults name fault := by
  constructor
  · rintro ⟨a, ha⟩ name hname fault hfault
    cases hfirst : names.findSome? scopes.fault? with
    | none =>
      have hnone := List.findSome?_eq_none_iff.mp hfirst name hname
      exact Scopes.fault?_eq_none_iff.mp hnone fault hfault
    | some first =>
      rw [hfirst] at h
      have hscope : result = .error (.scope first) := h
      rw [hscope] at ha
      cases ha
  · intro hnone
    have hfirst : names.findSome? scopes.fault? = none := by
      refine List.findSome?_eq_none_iff.mpr ?_
      intro name hname
      exact Scopes.fault?_eq_none_iff.mpr (hnone name hname)
    rw [hfirst] at h
    exact h

/-! ### Slots and templates -/

namespace Expander

variable {x : Expander}

/-- The end of a placeholder never fails. -/
theorem filtered_succeeds (hr : x.registry.ReturnsValues) (p : Placeholder) (v : Value)
    (exhausted : Bool) : ∃ piece, (x.filtered p v exhausted).run.result = .ok piece := by
  obtain ⟨w, hw⟩ := hr.applyFilters v p.segments
  exact ⟨_, x.result_filtered_of_ready hw exhausted⟩

/-- A slot ends by the first fault among the variables that it refers to. -/
theorem endsBy_resolveSlot (hr : x.registry.ReturnsValues) {nested : List Char → Task}
    {deeper : List Char → List String}
    (hnested : ∀ text, EndsBy ((deeper text).findSome? x.scopes.fault?) (nested text).run.result)
    (body : List Char) :
    EndsBy ((x.scopes.referencedBy deeper body).findSome? x.scopes.fault?)
      (x.resolveSlot nested body).run.result := by
  unfold Scopes.referencedBy
  cases reading x.scopes body with
  | malformed hread =>
    rw [resolveSlot_of_malformed hread, Task.run_after, Task.run, hread]
    exact ⟨_, rfl⟩
  | fault hread hres =>
    simp only [hread, List.findSome?_cons, Scopes.fault?, hres]
    rw [resolveSlot_of_fault hread hres, Task.run]
    exact rfl
  | @text p s hread hres =>
    simp only [hread, List.findSome?_cons, Scopes.fault?, hres]
    rw [resolveSlot_of_text hread hres, Task.run_bind]
    refine (hnested s.toList).andThen ?_
    intro piece
    exact filtered_succeeds hr p _ _
  | @value p v hread hres hv =>
    simp only [hread, List.findSome?_cons, Scopes.fault?, hres]
    rw [resolveSlot_of_value hread hres hv]
    cases v with
    | str s => exact absurd rfl (hv s)
    | _ => exact filtered_succeeds hr p _ _

/-- A template ends by the first fault among the variables that its slots refer to. -/
theorem endsBy_expand (hr : x.registry.ReturnsValues) (levels : Nat) (template : List Char) :
    EndsBy ((x.scopes.referenced levels template).findSome? x.scopes.fault?)
      (x.expand levels template).run.result := by
  induction levels generalizing template with
  | zero =>
    rw [run_expand_zero]
    exact ⟨_, rfl⟩
  | succ levels ih =>
    rw [result_expand_succ, Scopes.referenced, findSome?_flatMap]
    refine EndsBy.map (endsBy_runAll ?_) _
    intro slot _
    exact endsBy_resolveSlot hr ih slot.body

/-- In well-formed scopes every template gets a text. -/
theorem expand_succeeds (hr : x.registry.ReturnsValues) (hw : x.scopes.WellFormed) (levels : Nat)
    (template : List Char) : ∃ piece, (x.expand levels template).run.result = .ok piece := by
  refine (endsBy_expand hr levels template).ok_iff.mpr ?_
  intro name _ fault
  exact hw.not_consults name fault

end Expander

/-! ### Requests -/

namespace Service

variable {s : Service} {request : Request} {template : String}

/-- The variables that a request refers to. -/
def referenced (s : Service) (request : Request) (template : String) : List String :=
  request.scopes.referenced (s.levels request) template.toList

/-- A request ends by the first fault among the variables that it refers to. -/
theorem endsBy_expand (hr : s.registry.ReturnsValues) (h : request.template = .str template) :
    EndsBy ((s.referenced request template).findSome? request.scopes.fault?)
      (s.expand request).result := by
  rw [result_expand h]
  have hexpand : EndsBy _
      ((s.expander request).expand (s.levels request) template.toList).run.result :=
    Expander.endsBy_expand hr (s.levels request) template.toList
  exact hexpand.map _

/-- In well-formed scopes a request for a text answers a text. -/
theorem expand_succeeds (s : Service) (hr : s.registry.ReturnsValues) (request : Request)
    (hw : request.scopes.WellFormed) (h : request.template = .str template) :
    ∃ text, (s.expand request).result = .ok text := by
  refine (endsBy_expand hr h).ok_iff.mpr ?_
  intro name _ fault
  exact hw.not_consults name fault

end Service

end UrlTemplate
