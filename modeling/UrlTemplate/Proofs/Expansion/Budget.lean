import UrlTemplate.Proofs.Expansion.Trace
import UrlTemplate.Proofs.Observation

/-!
# The depth budget is only a cut-off

An expansion whose budget does not run out is the same under every larger budget, but for its notes.
`Outcome.PersistsIn` says so of two outcomes, and going on after an outcome keeps it
(`PersistsIn.andThen`), so a row of slots keeps it (`Task.persistsIn_runAll`), a slot keeps it
(`Expander.persistsIn_resolveSlot`), and by induction on the smaller number of levels every template
does (`Expander.persistsIn_expand`). `Outcome.Admits` is the other half: a piece that is marked as
exhausted comes with a report, so a budget that is not reported as run out is counted as sufficient.

`Service.runWithin` is the run of the template of a request with a budget. What such a request ends
with and logs is that of the run (`Service.result_expandWithin`, `Service.logs_expandWithin`), and
what it counts is too, but for its end (`Service.tally_expandWithin`).

**Theorem** (`Service.expandWithin_of_le`): both halves for requests, and hence that a budget which
runs out does so under every smaller one.
-/

namespace UrlTemplate

open Template Observation

namespace Outcome

variable {α β : Type}

/-! ### Outcomes that persist -/

/-- Unless its budget runs out, the first outcome is the second one, but for notes: every note tells
how many levels are left. -/
def PersistsIn (first second : Outcome α) : Prop :=
  ¬ RanOut first.observations →
    second.result = first.result ∧ reports second.observations = reports first.observations

/-- Every outcome persists in itself. -/
theorem PersistsIn.refl (outcome : Outcome α) : outcome.PersistsIn outcome :=
  fun _ => ⟨rfl, rfl⟩

/-- What follows outcomes that persist, and persists itself, persists after them. -/
theorem PersistsIn.andThen {first second : Outcome α} (h : first.PersistsIn second)
    {next next' : α → Outcome β} (hnext : ∀ a, (next a).PersistsIn (next' a)) :
    (first.andThen next).PersistsIn (second.andThen next') := by
  intro hout
  have hfirst : ¬ RanOut first.observations := by
    intro hran
    obtain ⟨later, hlater⟩ := exists_observations_andThen first next
    rw [hlater, ranOut_append] at hout
    exact hout (.inl hran)
  obtain ⟨hresult, hreports⟩ := h hfirst
  cases hr : first.result with
  | error e =>
    rw [andThen_of_error hr, andThen_of_error (hresult.trans hr)]
    exact ⟨rfl, hreports⟩
  | ok a =>
    rw [andThen_of_ok hr, ranOut_append, not_or] at hout
    obtain ⟨hresult', hreports'⟩ := hnext a hout.2
    rw [andThen_of_ok hr, andThen_of_ok (hresult.trans hr)]
    exact ⟨hresult', by rw [reports_append, reports_append, hreports, hreports']⟩

/-- Notes in front make no difference to whether an outcome persists. -/
theorem PersistsIn.debug {first second : Outcome α} (h : first.PersistsIn second) (event : String)
    (context context' : Fields) :
    PersistsIn ⟨Diagnostics.debug event context :: first.observations, first.result⟩
      ⟨Diagnostics.debug event context' :: second.observations, second.result⟩ := by
  intro hout
  refine h ?_
  intro hran
  exact hout hran

/-- What is made of a success makes no difference to whether an outcome persists. -/
theorem PersistsIn.map {first second : Outcome α} (h : first.PersistsIn second) (f : α → β) :
    PersistsIn ⟨first.observations, first.result.map f⟩
      ⟨second.observations, second.result.map f⟩ := by
  intro hout
  obtain ⟨hresult, hreports⟩ := h hout
  exact ⟨congrArg (Except.map f) hresult, hreports⟩

/-! ### Outcomes that admit exhaustion -/

/-- A piece that is marked as exhausted comes with a report that the budget has run out. -/
def Admits (outcome : Outcome Piece) : Prop :=
  ∀ piece, outcome.result = .ok piece → piece.exhausted = true → RanOut outcome.observations

end Outcome

/-- Slots that persist one by one persist in a row. -/
theorem Task.persistsIn_runAll {α : Type} {xs : List α} {task task' : α → Task}
    (h : ∀ a ∈ xs, (task a).run.PersistsIn (task' a).run) :
    (runAll (xs.map task)).PersistsIn (runAll (xs.map task')) := by
  induction xs with
  | nil => exact .refl _
  | cons a xs ih =>
    rw [List.map_cons, List.map_cons, runAll_cons, runAll_cons]
    refine (h a List.mem_cons_self).andThen ?_
    intro piece
    have hrest := ih fun b hb => h b (List.mem_cons_of_mem _ hb)
    refine hrest.andThen ?_
    intro pieces
    exact .refl _

namespace Expander

variable {x : Expander}

/-! ### Slots and templates -/

/-- A slot persists if what is nested in it does. -/
theorem persistsIn_resolveSlot {nested nested' : List Char → Task}
    (h : ∀ text, (nested text).run.PersistsIn (nested' text).run) (body : List Char) :
    (x.resolveSlot nested body).run.PersistsIn (x.resolveSlot nested' body).run := by
  cases reading x.scopes body with
  | malformed hread =>
    rw [resolveSlot_of_malformed hread, resolveSlot_of_malformed hread]
    exact .refl _
  | fault hread hres =>
    rw [resolveSlot_of_fault hread hres, resolveSlot_of_fault hread hres]
    exact .refl _
  | @text p s hread hres =>
    rw [resolveSlot_of_text hread hres, resolveSlot_of_text hread hres, Task.run_bind,
      Task.run_bind]
    refine (h s.toList).andThen ?_
    intro piece
    exact .refl _
  | value hread hres hv =>
    rw [resolveSlot_of_value hread hres hv, resolveSlot_of_value hread hres hv]
    exact .refl _

/-- A template without levels reports that the budget has run out. -/
theorem ranOut_expand_zero (template : List Char) :
    RanOut (x.expand 0 template).run.observations := by
  rw [run_expand_zero]
  unfold RanOut
  simp only [errors_userError, List.mem_singleton]
  exact ⟨_, rfl, rfl⟩

/-- An expansion persists when more levels are allowed. -/
theorem persistsIn_expand {fuel fuel' : Nat} (h : fuel ≤ fuel') (template : List Char) :
    (x.expand fuel template).run.PersistsIn (x.expand fuel' template).run := by
  induction fuel generalizing fuel' template with
  | zero =>
    intro hout
    exact absurd (ranOut_expand_zero template) hout
  | succ fuel ih =>
    -- the larger budget has a level for this template too
    obtain ⟨more, rfl⟩ : ∃ more, fuel' = more + 1 := ⟨fuel' - 1, by omega⟩
    by_cases hslots : (scan template).slots = []
    · rw [run_expand_of_no_slots hslots, run_expand_of_no_slots hslots]
      exact .refl _
    · rw [run_expand_of_slots hslots, run_expand_of_slots hslots]
      have hall : (Task.runAll (x.slotTasks fuel template)).PersistsIn
          (Task.runAll (x.slotTasks more template)) := by
        refine Task.persistsIn_runAll ?_
        intro slot _
        exact persistsIn_resolveSlot (fun text => ih (by omega) text) slot.body
      exact (hall.map _).debug _ _ _

/-- A slot admits exhaustion if what is nested in it does. -/
theorem admits_resolveSlot {nested : List Char → Task} (h : ∀ text, (nested text).run.Admits)
    (body : List Char) : (x.resolveSlot nested body).run.Admits := by
  intro piece hpiece hexhausted
  cases reading x.scopes body with
  | malformed hread =>
    rw [resolveSlot_of_malformed hread, Task.run_after, Task.run, Except.ok.injEq] at hpiece
    rw [← hpiece] at hexhausted
    cases hexhausted
  | fault hread hres =>
    rw [resolveSlot_of_fault hread hres, Task.run] at hpiece
    cases hpiece
  | @text p s hread hres =>
    rw [resolveSlot_of_text hread hres, Task.run_bind] at hpiece ⊢
    cases hnested : (nested s.toList).run.result with
    | error e =>
      rw [Outcome.andThen_of_error hnested] at hpiece
      cases hpiece
    | ok inner =>
      rw [Outcome.andThen_of_ok hnested] at hpiece ⊢
      rw [x.exhausted_of_filtered hpiece] at hexhausted
      exact ranOut_append.mpr (.inl (h s.toList inner hnested hexhausted))
  | value hread hres hv =>
    rw [resolveSlot_of_value hread hres hv] at hpiece
    rw [x.exhausted_of_filtered hpiece] at hexhausted
    cases hexhausted

/-- An expansion admits exhaustion. -/
theorem admits_expand (fuel : Nat) (template : List Char) :
    (x.expand fuel template).run.Admits := by
  induction fuel generalizing template with
  | zero =>
    intro piece _ _
    exact ranOut_expand_zero template
  | succ fuel ih =>
    intro piece hpiece hexhausted
    by_cases hslots : (scan template).slots = []
    · rw [run_expand_of_no_slots hslots, Except.ok.injEq] at hpiece
      rw [← hpiece] at hexhausted
      cases hexhausted
    · rw [run_expand_of_slots hslots] at hpiece ⊢
      cases hall : (Task.runAll (x.slotTasks fuel template)).result with
      | error e =>
        rw [hall] at hpiece
        cases hpiece
      | ok pieces =>
        rw [hall] at hpiece
        rw [← Except.ok.inj hpiece] at hexhausted
        -- some piece is exhausted; the slot that it comes from has reported so
        obtain ⟨inner, hmem, hinner⟩ := List.any_eq_true.mp hexhausted
        have hresults := Task.runAll_eq_ok_iff.mp hall
        have hresult : Except.ok inner ∈ (x.slotTasks fuel template).map (·.run.result) := by
          rw [hresults]
          exact List.mem_map_of_mem hmem
        obtain ⟨task, htask, heq⟩ := List.mem_map.mp hresult
        obtain ⟨slot, -, rfl⟩ := List.mem_map.mp htask
        have hran := admits_resolveSlot ih slot.body inner heq hinner
        show RanOut
          (Diagnostics.debug _ _ :: (Task.runAll (x.slotTasks fuel template)).observations)
        rw [Task.observations_runAll_of_ok hall]
        exact ranOut_flatMap.mpr ⟨_, htask, hran⟩

end Expander

namespace Service

variable {s : Service}

/-! ### Requests -/

/-- Answers a request for a text with a given budget. -/
def expandWithin (s : Service) (template : String) (scopes : Scopes) (encode : Option Bool)
    (budget : Int) : Outcome String :=
  s.expand ⟨.str template, scopes, some budget, encode⟩

/-- An answer persists when the budget grows. -/
theorem persistsIn_expandWithin (s : Service) (template : String) (scopes : Scopes)
    (encode : Option Bool) {n m : Int} (h : n ≤ m) :
    (s.expandWithin template scopes encode n).PersistsIn
      (s.expandWithin template scopes encode m) := by
  let request (budget : Int) : Request := ⟨.str template, scopes, some budget, encode⟩
  have hrun (budget : Int) : (s.task (request budget)).run = _ :=
    run_task (s := s) (show (request budget).template = .str template from rfl)
  have hlevels : s.levels (request n) ≤ s.levels (request m) := by
    show (n + 1).toNat ≤ (m + 1).toNat
    omega
  have hexpand := Expander.persistsIn_expand (x := s.expander (request n)) hlevels template.toList
  have htask : (s.task (request n)).run.PersistsIn (s.task (request m)).run := by
    rw [hrun, hrun]
    refine hexpand.andThen ?_
    intro piece
    exact .refl _
  exact htask.map _

/-- The end of an answer is counted once: that it took time, and whether its piece is exhausted. -/
theorem tally_end_of_ok {request : Request} {template : String}
    (h : request.template = .str template)
    (hmetrics : s.recordMetrics = true) {piece : Piece}
    (hres : ((s.expander request).expand (s.levels request) template.toList).run.result =
      .ok piece) {counter : Counter} (houter : counter.isInner = false) :
    tally (s.expand request).observations counter =
      [Counter.latency, .expansions piece.exhausted].count counter := by
  have hcounts : Step.observations (s.finalCounts piece) =
      [Counter.latency, .expansions piece.exhausted].map .count := by
    unfold finalCounts
    rw [hmetrics]
    rfl
  rw [observations_expand_of_ok h hres, tally_append,
    Expander.tally_expand_of_not_inner _ _ houter, Nat.zero_add, hcounts]
  unfold tally
  rw [increments_map_count]

/-- An answer is counted once, by whether its piece is exhausted. -/
theorem tally_expansions_of_ok {request : Request} {template : String}
    (h : request.template = .str template)
    (hmetrics : s.recordMetrics = true) {piece : Piece}
    (hres : ((s.expander request).expand (s.levels request) template.toList).run.result =
      .ok piece) (exhausted : Bool) :
    tally (s.expand request).observations (.expansions exhausted) =
      if piece.exhausted = exhausted then 1 else 0 := by
  rw [tally_end_of_ok h hmetrics hres rfl]
  cases piece.exhausted <;> cases exhausted <;> rfl

/-- The run of the template of a request, before the end of the expansion is counted. -/
def runWithin (s : Service) (template : String) (scopes : Scopes) (encode : Option Bool)
    (budget : Int) : Outcome Piece :=
  (Expander.expand ⟨s.registry, scopes, encode.getD s.encode, s.recordMetrics⟩ (budget + 1).toNat
    template.toList).run

section runWithin

variable {template : String} {scopes : Scopes} {encode : Option Bool} {n : Int}

/-- The answer is the text of the template. -/
theorem result_expandWithin :
    (s.expandWithin template scopes encode n).result =
      (s.runWithin template scopes encode n).result.map fun piece => String.ofList piece.text :=
  result_expand rfl

/-- An answer comes from a piece. -/
theorem exists_piece_of_expandWithin {text : String}
    (h : (s.expandWithin template scopes encode n).result = .ok text) :
    ∃ piece, (s.runWithin template scopes encode n).result = .ok piece := by
  obtain ⟨_, piece, htemplate, hpiece⟩ := exists_piece_of_ok h
  cases htemplate
  exact ⟨piece, hpiece⟩

/-- The entries of a request are those of its template. -/
theorem logs_expandWithin :
    logs (s.expandWithin template scopes encode n).observations =
      logs (s.runWithin template scopes encode n).observations :=
  logs_expand rfl

/-- The problems of a request are those of its template. -/
theorem errors_expandWithin :
    errors (s.expandWithin template scopes encode n).observations =
      errors (s.runWithin template scopes encode n).observations := by
  unfold errors
  rw [logs_expandWithin]

/-- The counts of a request are those of its template, but for the counts of its end. -/
theorem tally_expandWithin {counter : Counter} (h : counter.isInner = true) :
    tally (s.expandWithin template scopes encode n).observations counter =
      tally (s.runWithin template scopes encode n).observations counter :=
  tally_expand rfl h

/-- The end of a request is counted once, by whether its piece is exhausted. -/
theorem tally_expansions_expandWithin (hmetrics : s.recordMetrics = true)
    {piece : Piece} (h : (s.runWithin template scopes encode n).result = .ok piece)
    (exhausted : Bool) :
    tally (s.expandWithin template scopes encode n).observations (.expansions exhausted) =
      if piece.exhausted = exhausted then 1 else 0 :=
  @tally_expansions_of_ok s ⟨.str template, scopes, some n, encode⟩ template rfl hmetrics piece h
    exhausted

end runWithin

/-- An answer whose budget has not run out is counted as such, once. -/
theorem tally_expansions_of_not_ranOut {request : Request} {template : String}
    (h : request.template = .str template)
    (hmetrics : s.recordMetrics = true) {text : String}
    (hok : (s.expand request).result = .ok text)
    (hout : ¬ RanOut (s.expand request).observations) :
    tally (s.expand request).observations (.expansions false) = 1 ∧
      tally (s.expand request).observations (.expansions true) = 0 := by
  rw [result_expand h] at hok
  cases hres : ((s.expander request).expand (s.levels request) template.toList).run.result with
  | error e =>
    rw [hres] at hok
    cases hok
  | ok piece =>
    have hexhausted : piece.exhausted = false := by
      rw [observations_expand_of_ok h hres, ranOut_append, not_or] at hout
      by_contra hne
      exact hout.1 (Expander.admits_expand _ _ piece hres (by simpa using hne))
    have htally := tally_expansions_of_ok h hmetrics hres
    rw [hexhausted] at htally
    exact ⟨htally false, htally true⟩

/-- **An expansion whose budget does not run out is the same under every larger budget, with the
same problems and the same counts, and is counted as one that did not run out; so a budget that runs
out does so under every smaller one.** -/
theorem expandWithin_of_le (s : Service) (template : String) (scopes : Scopes)
    (encode : Option Bool) {n m : Int} (h : n ≤ m) :
    (¬ RanOut (s.expandWithin template scopes encode n).observations →
      (s.expandWithin template scopes encode m).result =
        (s.expandWithin template scopes encode n).result ∧
      errors (s.expandWithin template scopes encode m).observations =
        errors (s.expandWithin template scopes encode n).observations ∧
      (∀ counter, tally (s.expandWithin template scopes encode m).observations counter =
        tally (s.expandWithin template scopes encode n).observations counter) ∧
      (s.recordMetrics = true → ∀ text,
        (s.expandWithin template scopes encode m).result = .ok text →
          tally (s.expandWithin template scopes encode m).observations (.expansions false) = 1 ∧
          tally (s.expandWithin template scopes encode m).observations (.expansions true) = 0)) ∧
    (RanOut (s.expandWithin template scopes encode m).observations →
      RanOut (s.expandWithin template scopes encode n).observations) := by
  have hpersists := s.persistsIn_expandWithin template scopes encode h
  have herrors : ¬ RanOut (s.expandWithin template scopes encode n).observations →
      errors (s.expandWithin template scopes encode m).observations =
        errors (s.expandWithin template scopes encode n).observations := by
    intro hout
    rw [← errors_reports, (hpersists hout).2, errors_reports]
  have hmonotone : RanOut (s.expandWithin template scopes encode m).observations →
      RanOut (s.expandWithin template scopes encode n).observations := by
    intro hran
    by_contra hout
    unfold RanOut at hran
    rw [herrors hout] at hran
    exact hout hran
  refine ⟨?_, hmonotone⟩
  intro hout
  refine ⟨(hpersists hout).1, herrors hout, ?_, ?_⟩
  · intro counter
    rw [← tally_reports, (hpersists hout).2, tally_reports]
  · intro hmetrics text hok
    exact tally_expansions_of_not_ranOut rfl hmetrics hok (mt hmonotone hout)

/-- A service that records metrics. -/
def metered : Service :=
  new none 4 false true none

/-- A variable whose text refers to another one, which is no text. -/
def nestedScopes : Scopes :=
  ⟨.object [("vars", .object [("site", .str "/${path}"), ("path", .int 7)])], .null, .null⟩

/-- One level below the template is enough for a text that refers to another one: three levels
change nothing. No level is not enough, so less than that is not enough either. -/
theorem expandWithin_of_le_nested :
    (metered.expandWithin "${site}" nestedScopes none 3).result = .ok "/7" ∧
    tally (metered.expandWithin "${site}" nestedScopes none 3).observations
      (.expansions false) = 1 ∧
    RanOut (metered.expandWithin "${site}" nestedScopes none (-1)).observations := by
  have hone : (metered.expandWithin "${site}" nestedScopes none 1).result = .ok "/7" := by
    cbv
  have hout : ¬ RanOut (metered.expandWithin "${site}" nestedScopes none 1).observations :=
    of_decide_eq_false (by cbv)
  have hran : RanOut (metered.expandWithin "${site}" nestedScopes none 0).observations :=
    of_decide_eq_true (by cbv)
  obtain ⟨hresult, -, -, hcounted⟩ :=
    (metered.expandWithin_of_le "${site}" nestedScopes none (show (1 : Int) ≤ 3 by decide)).1 hout
  have hthree := hresult.trans hone
  exact ⟨hthree, (hcounted rfl "/7" hthree).1,
    (metered.expandWithin_of_le "${site}" nestedScopes none (show (-1 : Int) ≤ 0 by decide)).2
      hran⟩

end Service

end UrlTemplate
