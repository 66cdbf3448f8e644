import UrlTemplate.Expansion.Service
import UrlTemplate.Proofs.Expansion.Outcome
import UrlTemplate.Proofs.Observation

/-!
# The run of an expansion

What the run of an expansion from left to right shows and ends with, one statement for each way in
which a slot can be resolved (`Reading`, with `resolveSlot_of_malformed`, `resolveSlot_of_fault`,
`resolveSlot_of_text`, `resolveSlot_of_value`), one for the end of a placeholder (`run_filtered`)
and three for a template: with no levels left (`run_expand_zero`), without slots
(`run_expand_of_no_slots`) and with slots (`run_expand_of_slots`). A theorem about expansions is an
induction on the levels with these as its cases, and `Service.run_task` takes it to requests.
-/

namespace UrlTemplate

namespace Template

/-- Reads the body of a slot as it stands in a template. -/
def readSlot (body : List Char) : Except PlaceholderError Placeholder :=
  Placeholder.parse (String.ofList (slotSource body)) (String.ofList body)

/-- A body is read as a placeholder if that is what is left when errors are left out. -/
theorem mem_toOption_readSlot {body : List Char} {p : Placeholder} :
    p ∈ (readSlot body).toOption ↔ readSlot body = .ok p := by
  cases readSlot body <;> simp [Except.toOption]

/-- The ways in which the body of a slot can be resolved in some scopes. -/
inductive Reading (scopes : Scopes) (body : List Char) : Prop
  /-- The body is no placeholder. -/
  | malformed {e : PlaceholderError} (hread : readSlot body = .error e)
  /-- The look-up of the variable comes upon a malformed scope. -/
  | fault {p : Placeholder} {fault : ScopeFault} (hread : readSlot body = .ok p)
      (hres : scopes.resolve p.reference.name = .error fault)
  /-- The variable is a text. -/
  | text {p : Placeholder} {s : String} (hread : readSlot body = .ok p)
      (hres : scopes.resolve p.reference.name = .ok (.str s))
  /-- The variable is a value of another kind. -/
  | value {p : Placeholder} {v : Value} (hread : readSlot body = .ok p)
      (hres : scopes.resolve p.reference.name = .ok v) (hv : ∀ s, v ≠ .str s)

/-- Every body can be resolved in one of these ways. -/
theorem reading (scopes : Scopes) (body : List Char) : Reading scopes body := by
  cases hread : readSlot body with
  | error e => exact .malformed hread
  | ok p =>
    cases hres : scopes.resolve p.reference.name with
    | error fault => exact .fault hread hres
    | ok v =>
      by_cases hv : ∃ s, v = .str s
      · obtain ⟨s, rfl⟩ := hv
        exact .text hread hres
      · refine .value hread hres ?_
        intro s hs
        exact hv ⟨s, hs⟩

/-- A template without slots is its tail. -/
theorem tail_scan_of_no_slots {template : List Char} (h : (scan template).slots = []) :
    (scan template).tail = template := by
  have hsource := source_scan template
  unfold Segmentation.source at hsource
  rw [h, List.map_nil, Segmentation.fill] at hsource
  · exact hsource
  · intro slot slots text texts hnil
    cases hnil

end Template

/-- A report shows the problem that it is about. -/
theorem Registry.observations_report (r : Registry) (event : String) (details : Fields) :
    Step.observations (r.report event details) =
      r.context.diagnostics.userError event details :=
  Step.observations_map_observe _

namespace Expander

open Template

variable (x : Expander)

/-! ### The end of a placeholder -/

/-- What is counted when a placeholder has got its text. -/
def resolvedCount : List Observation :=
  if x.recordMetrics then [.count .placeholders] else []

/-- The filters run first; an item with a text is then counted and ends the placeholder. -/
theorem run_filtered (p : Placeholder) (v : Value) (exhausted : Bool) :
    (x.filtered p v exhausted).run =
      match (x.registry.applyFilters (.ready v) p.segments).2.readable with
      | .ok w =>
        ⟨Step.observations (x.registry.applyFilters (.ready v) p.segments).1 ++ x.resolvedCount,
          .ok ⟨x.finalText p.reference w, exhausted⟩⟩
      | .error e =>
        ⟨Step.observations (x.registry.applyFilters (.ready v) p.segments).1,
          .error (.noText e)⟩ := by
  unfold filtered
  rw [Task.run_after]
  cases (x.registry.applyFilters (.ready v) p.segments).2.readable with
  | error e =>
    rw [Task.run]
    simp only [List.append_nil]
  | ok w =>
    simp only [Task.run_after, Task.run, List.append_nil]
    unfold resolvedCount
    cases x.recordMetrics <;> rfl

/-- A placeholder ends with the final text of the value with which its filters end. -/
theorem text_filtered_eq_map (p : Placeholder) (v : Value) (exhausted : Bool) :
    (x.filtered p v exhausted).run.result.map Piece.text =
      ((x.registry.applyFilters (.ready v) p.segments).2.readable.mapError .noText).map
        (x.finalText p.reference) := by
  rw [run_filtered]
  cases (x.registry.applyFilters (.ready v) p.segments).2.readable <;> rfl

/-- A chain that ends with a value gives the placeholder its text. -/
theorem result_filtered_of_ready {p : Placeholder} {v w : Value}
    (h : (x.registry.applyFilters (.ready v) p.segments).2 = .ready w) (exhausted : Bool) :
    (x.filtered p v exhausted).run.result = .ok ⟨x.finalText p.reference w, exhausted⟩ := by
  rw [run_filtered, h]
  rfl

/-- The end of a placeholder hands on whether the levels ran out. -/
theorem exhausted_of_filtered {p : Placeholder} {v : Value} {exhausted : Bool} {piece : Piece}
    (h : (x.filtered p v exhausted).run.result = .ok piece) : piece.exhausted = exhausted := by
  rw [run_filtered] at h
  cases hread : (x.registry.applyFilters (.ready v) p.segments).2.readable with
  | error e =>
    rw [hread] at h
    cases h
  | ok w =>
    rw [hread] at h
    rw [← Except.ok.inj h]

/-! ### A slot -/

variable {x} {nested : List Char → Task} {body : List Char}

/-- A malformed slot is reported and leaves nothing. -/
theorem resolveSlot_of_malformed {e : PlaceholderError} (h : readSlot body = .error e) :
    x.resolveSlot nested body =
      .after (x.registry.report "invalid_placeholder"
        [("placeholder", .str (String.ofList (slotSource body))), ("error", .str e.message)])
        (.done ⟨[], false⟩) := by
  unfold readSlot at h
  unfold resolveSlot
  simp only [h]

/-- A malformed scope ends the expansion. -/
theorem resolveSlot_of_fault {p : Placeholder} {fault : ScopeFault} (h : readSlot body = .ok p)
    (hres : x.scopes.resolve p.reference.name = .error fault) :
    x.resolveSlot nested body = .fail (.scope fault) := by
  unfold readSlot at h
  unfold resolveSlot
  simp only [h, hres]

/-- A text is expanded before the filters are applied. -/
theorem resolveSlot_of_text {p : Placeholder} {s : String} (h : readSlot body = .ok p)
    (hres : x.scopes.resolve p.reference.name = .ok (.str s)) :
    x.resolveSlot nested body =
      (nested s.toList).bind fun piece =>
        x.filtered p (.str (String.ofList piece.text)) piece.exhausted := by
  unfold readSlot at h
  unfold resolveSlot
  simp only [h, hres]

/-- Any other value is taken as it is. -/
theorem resolveSlot_of_value {p : Placeholder} {v : Value} (h : readSlot body = .ok p)
    (hres : x.scopes.resolve p.reference.name = .ok v) (hv : ∀ s, v ≠ .str s) :
    x.resolveSlot nested body = x.filtered p v false := by
  unfold readSlot at h
  unfold resolveSlot
  simp only [h, hres]

/-! ### A template -/

variable (x) {template : List Char}

/-- The subtasks of a template, one for each slot. -/
def slotTasks (fuel : Nat) (template : List Char) : List Task :=
  (scan template).slots.map fun slot => x.resolveSlot (x.expand fuel) slot.body

/-- With no levels left the template is reported and stays as it is. -/
theorem run_expand_zero (template : List Char) :
    (x.expand 0 template).run =
      ⟨x.registry.context.diagnostics.userError "max_depth_reached"
          [("detail", .str depthDetail), ("template", .str (String.ofList template))],
        .ok ⟨template, true⟩⟩ := by
  rw [expand, Task.run_after, Task.run, Registry.observations_report]
  simp only [List.append_nil]

variable {x}

/-- A template without slots stays as it is, and nothing is shown. -/
theorem run_expand_of_no_slots {fuel : Nat} (h : (scan template).slots = []) :
    (x.expand (fuel + 1) template).run = ⟨[], .ok ⟨template, false⟩⟩ := by
  rw [expand]
  simp only [h, if_true]
  rw [Task.run]

/-- A template with slots is noted, and then its slots are resolved and spliced. -/
theorem run_expand_of_slots {fuel : Nat} (h : (scan template).slots ≠ []) :
    (x.expand (fuel + 1) template).run =
      ⟨Diagnostics.debug "expanding_template"
          [("placeholders", .int (scan template).slots.length), ("iterations", .int fuel)] ::
          (Task.runAll (x.slotTasks fuel template)).observations,
        (Task.runAll (x.slotTasks fuel template)).result.map (splice (scan template))⟩ := by
  rw [expand]
  simp only [h, if_false]
  rw [Task.run_step, Task.run_fork]
  unfold slotTasks
  cases hall : (Task.runAll ((scan template).slots.map fun slot =>
      x.resolveSlot (x.expand fuel) slot.body)).result with
  | error e =>
    rw [Outcome.andThen_of_error hall]
    rfl
  | ok pieces =>
    rw [Outcome.andThen_of_ok hall, Task.run]
    simp only [List.append_nil]
    rfl

/-- The text of a template is that of its slots spliced into it. -/
theorem result_expand_succ (x : Expander) (fuel : Nat) (template : List Char) :
    (x.expand (fuel + 1) template).run.result =
      (Task.runAll (x.slotTasks fuel template)).result.map (splice (scan template)) := by
  by_cases h : (scan template).slots = []
  · have htail := tail_scan_of_no_slots h
    rw [run_expand_of_no_slots h]
    unfold slotTasks
    rw [h, List.map_nil, Task.runAll_nil]
    simp only [Except.map, splice, h, List.map_nil, Segmentation.fill, htail, List.any_nil]
  · rw [run_expand_of_slots h]

end Expander

namespace Service

/-- What a service expands the template of a request with. -/
def expander (s : Service) (request : Request) : Expander :=
  ⟨s.registry, request.scopes, request.encode.getD s.encode, s.recordMetrics⟩

/-- The number of levels that a request may expand: its budget, and one for the template itself. -/
def levels (s : Service) (request : Request) : Nat :=
  (request.iterations.getD s.maxIterations + 1).toNat

variable {s : Service} {request : Request} {template : String}

/-- A request expands its template and then counts the expansion. -/
theorem run_task (h : request.template = .str template) :
    (s.task request).run =
      ((s.expander request).expand (s.levels request) template.toList).run.andThen fun piece =>
        ⟨Step.observations (s.finalCounts piece), .ok piece⟩ := by
  unfold task
  simp only [h]
  rw [Task.run_bind]
  congr 1
  funext piece
  rw [Task.run_after, Task.run]
  simp only [List.append_nil]

/-- The text that answers a request is the text of its template. -/
theorem result_expand (h : request.template = .str template) :
    (s.expand request).result =
      ((s.expander request).expand (s.levels request) template.toList).run.result.map
        fun piece => String.ofList piece.text := by
  unfold expand reply
  rw [run_task h]
  cases hres : ((s.expander request).expand (s.levels request) template.toList).run.result with
  | error e =>
    rw [Outcome.andThen_of_error hres]
  | ok piece =>
    rw [Outcome.andThen_of_ok hres]

/-- The template of a request is a text, or the request fails with every service. -/
theorem text_or_fails (request : Request) :
    (∃ template, request.template = .str template) ∨
      ∀ s : Service, s.task request = .fail .templateNotText := by
  cases htemplate : request.template with
  | str template => exact .inl ⟨template, rfl⟩
  | _ =>
    refine .inr fun s => ?_
    unfold task
    rw [htemplate]

/-- A request that succeeds has a text for a template, and that has a piece. -/
theorem exists_piece_of_ok {text : String} (h : (s.expand request).result = .ok text) :
    ∃ template piece, request.template = .str template ∧
      ((s.expander request).expand (s.levels request) template.toList).run.result =
        .ok piece := by
  rcases text_or_fails request with ⟨template, htemplate⟩ | hfail
  · rw [result_expand htemplate] at h
    rcases hres : ((s.expander request).expand (s.levels request) template.toList).run.result
      with e | piece
    · rw [hres] at h
      cases h
    · exact ⟨template, piece, htemplate, hres⟩
  · unfold expand at h
    rw [hfail] at h
    cases h

/-- A request that succeeds shows what its template shows, and then counts the expansion. -/
theorem observations_expand_of_ok (h : request.template = .str template) {piece : Piece}
    (hpiece : ((s.expander request).expand (s.levels request) template.toList).run.result =
      .ok piece) :
    (s.expand request).observations =
      ((s.expander request).expand (s.levels request) template.toList).run.observations ++
        Step.observations (s.finalCounts piece) := by
  unfold expand reply
  rw [run_task h, Outcome.andThen_of_ok hpiece]

/-- A request shows what its template shows, and then no more than counts of its end. -/
theorem exists_observations_expand (h : request.template = .str template) :
    ∃ counters : List Counter, (∀ counter ∈ counters, counter.isInner = false) ∧
      (s.expand request).observations =
        ((s.expander request).expand (s.levels request) template.toList).run.observations ++
          counters.map .count := by
  cases hres : ((s.expander request).expand (s.levels request) template.toList).run.result with
  | error e =>
    refine ⟨[], by simp, ?_⟩
    unfold expand reply
    rw [run_task h, Outcome.andThen_of_error hres, List.map_nil, List.append_nil]
  | ok piece =>
    rw [observations_expand_of_ok h hres]
    unfold finalCounts
    cases s.recordMetrics with
    | false => exact ⟨[], by simp, rfl⟩
    | true => exact ⟨[.latency, .expansions piece.exhausted], by simp [Counter.isInner], rfl⟩

/-- A request logs what its template logs. -/
theorem logs_expand (h : request.template = .str template) :
    Observation.logs (s.expand request).observations = Observation.logs
      ((s.expander request).expand (s.levels request) template.toList).run.observations := by
  obtain ⟨counters, -, hobservations⟩ := exists_observations_expand (s := s) h
  rw [hobservations, Observation.logs_append, Observation.logs_map_count, List.append_nil]

/-- A request counts what its template counts, but for the counts of its end. -/
theorem tally_expand (h : request.template = .str template) {counter : Counter}
    (hinner : counter.isInner = true) :
    Observation.tally (s.expand request).observations counter =
      Observation.tally
        ((s.expander request).expand (s.levels request) template.toList).run.observations
        counter := by
  obtain ⟨counters, houter, hobservations⟩ := exists_observations_expand (s := s) h
  have hnone : counter ∉ counters := by
    intro hmem
    rw [houter counter hmem] at hinner
    cases hinner
  rw [hobservations, Observation.tally_append]
  unfold Observation.tally
  rw [Observation.increments_map_count, List.count_eq_zero.mpr hnone, Nat.add_zero]

end Service

end UrlTemplate
