import UrlTemplate.Proofs.Expansion.Writing
import UrlTemplate.Proofs.Filter.Hash

/-!
# Recording no metrics

A service that records no metrics, none of its own and none in its registry or its diagnostics
(`Service.unmetered`), does the same work as one that does, and of what that one shows it shows the
log entries and nothing else. One lemma for each part of an expansion says so: reports and counts,
handlers, segments and chains (`Registry.applyFilters_unmetered`), and by induction on the levels
templates (`Expander.run_expand_unmetered`) and requests (`Service.expand_unmetered`).
`Outcome.keep` states it for outcomes, and its law for `Outcome.andThen` takes it from parts to
wholes. The values that are written are the same, too (`Expander.writes_expand_unmetered`), so there
is an answer to the same requests (`Service.result_answer_unmetered`).
-/

namespace UrlTemplate

open Template

namespace Observation

/-- Log entries, as opposed to counts. -/
def isLog : Observation → Bool
  | .log _ => true
  | .count _ => false

/-- Without the counts there are the same log entries. -/
theorem logs_filter_isLog (os : List Observation) : logs (os.filter isLog) = logs os := by
  induction os with
  | nil => rfl
  | cons o os ih =>
    rcases o with entry | counter
    · exact congrArg (entry :: ·) ih
    · exact ih

/-- Without the counts nothing is counted. -/
theorem increments_filter_isLog (os : List Observation) : increments (os.filter isLog) = [] := by
  unfold increments
  rw [List.filterMap_eq_nil_iff]
  intro o ho
  rcases o with entry | counter
  · rfl
  · have hlog := (List.mem_filter.mp ho).2
    cases hlog

end Observation

open Observation

/-- Without metrics a problem is logged and not counted. -/
theorem Diagnostics.userError_unmetered (d : Diagnostics) (event : String) (context : Fields) :
    userError ⟨false⟩ event context = (d.userError event context).filter isLog := by
  obtain ⟨recordMetrics⟩ := d
  cases recordMetrics <;> rfl

/-! ### Chains -/

/-- The same, but no metrics are recorded. -/
def FilterContext.unmetered (context : FilterContext) : FilterContext :=
  { context with recordMetrics := false, diagnostics := ⟨false⟩ }

/-- Without metrics hashing comes to the same value and shows the log entries. -/
theorem FilterContext.hash_unmetered (context : FilterContext) (item : Item) :
    context.unmetered.hash item =
      ((context.hash item).1.filter isLog, (context.hash item).2) := by
  obtain ⟨result, hresult⟩ := context.exists_hashesTo item
  have hunmetered : context.unmetered.HashesTo item result := hresult.congr rfl
  rw [hresult.hash_eq, hunmetered.hash_eq]
  rcases result with problem | hash
  · exact congrArg (·, _) (Diagnostics.userError_unmetered _ _ _)
  · rfl

/-- Without metrics a handler does the same and shows the log entries. -/
theorem Handler.run_unmetered (handler : Handler) (context : FilterContext) (item : Item)
    (args : List String) :
    Step.observations (handler.run context.unmetered item args).steps =
        (Step.observations (handler.run context item args).steps).filter isLog ∧
      (handler.run context.unmetered item args).outcome = (handler.run context item args).outcome ∧
      (handler.run context.unmetered item args).left = (handler.run context item args).left := by
  cases handler with
  | sync apply =>
    refine ⟨?_, rfl, rfl⟩
    simp only [run, Step.observations_pauses, List.filter_nil]
  | async apply =>
    refine ⟨?_, rfl, rfl⟩
    simp only [run, Step.observations_pauses, List.filter_nil]
  | hash =>
    unfold run
    simp only [context.hash_unmetered, Step.observations_map_observe]
    exact ⟨trivial, trivial, trivial⟩

namespace Registry

/-- The same registry, but no metrics are recorded. -/
def unmetered (r : Registry) : Registry :=
  { r with context := r.context.unmetered }

variable (r : Registry)

/-- Without metrics a problem of a segment is logged and not counted. -/
theorem report_unmetered (event : String) (details : Fields) :
    Step.observations (r.unmetered.report event details) =
      (Step.observations (r.report event details)).filter isLog := by
  rw [observations_report, observations_report]
  exact Diagnostics.userError_unmetered _ _ _

/-- Without metrics applications are not counted. -/
theorem countApplication_unmetered (name : String) (ok : Bool) :
    Step.observations (r.unmetered.countApplication name ok) =
      (Step.observations (r.countApplication name ok)).filter isLog := by
  unfold countApplication
  cases r.context.recordMetrics <;> rfl

/-- Without metrics a segment makes the same of an item and shows the log entries. -/
theorem applySegment_unmetered (item : Item) (segment : String) :
    Step.observations (r.unmetered.applySegment item segment).1 =
        (Step.observations (r.applySegment item segment).1).filter isLog ∧
      (r.unmetered.applySegment item segment).2 = (r.applySegment item segment).2 := by
  rcases hparse : FilterCall.parse segment with e | call
  · rw [applySegment_of_malformed hparse, applySegment_of_malformed hparse]
    exact ⟨r.report_unmetered _ _, rfl⟩
  · rcases hget : r.get? call.name with _ | handler
    · have hget' : r.unmetered.get? call.name = none := hget
      rw [applySegment_of_unknown hparse hget, applySegment_of_unknown hparse hget']
      exact ⟨r.report_unmetered _ _, rfl⟩
    · have hget' : r.unmetered.get? call.name = some handler := hget
      obtain ⟨hsteps, houtcome, hleft⟩ := handler.run_unmetered r.context item call.args
      rw [applySegment_of_handler hparse hget, applySegment_of_handler hparse hget']
      rcases hrun : (handler.run r.context item call.args).outcome with e | next
      · rw [applyHandler_of_error hrun, applyHandler_of_error (houtcome.trans hrun)]
        refine ⟨?_, hleft⟩
        simp only [Step.observations_append, List.filter_append, countApplication_unmetered,
          report_unmetered, ← hsteps]
        rfl
      · rw [applyHandler_of_ok hrun, applyHandler_of_ok (houtcome.trans hrun)]
        refine ⟨?_, rfl⟩
        simp only [Step.observations_append, List.filter_append, countApplication_unmetered,
          ← hsteps]
        rfl

/-- Without metrics a chain makes the same of an item and shows the log entries. -/
theorem applyFilters_unmetered (item : Item) (segments : List String) :
    Step.observations (r.unmetered.applyFilters item segments).1 =
        (Step.observations (r.applyFilters item segments).1).filter isLog ∧
      (r.unmetered.applyFilters item segments).2 = (r.applyFilters item segments).2 := by
  induction segments generalizing item with
  | nil => exact ⟨rfl, rfl⟩
  | cons segment rest ih =>
    obtain ⟨hsteps, hnext⟩ := r.applySegment_unmetered item segment
    obtain ⟨hlater, hfinal⟩ := ih (r.applySegment item segment).2
    rw [applyFilters_cons, applyFilters_cons, hnext, Step.observations_append,
      Step.observations_append, List.filter_append, hsteps, hlater]
    exact ⟨rfl, hfinal⟩

end Registry

/-! ### Expansions -/

namespace Expander

/-- The same expander, but no metrics are recorded. -/
def unmetered (x : Expander) : Expander :=
  { x with registry := x.registry.unmetered, recordMetrics := false }

variable (x : Expander)

/-- Without metrics a placeholder ends in the same way and shows the log entries. -/
theorem run_filtered_unmetered (p : Placeholder) (v : Value) (exhausted : Bool) :
    (x.unmetered.filtered p v exhausted).run = (x.filtered p v exhausted).run.keep isLog := by
  obtain ⟨hsteps, hfinal⟩ := x.registry.applyFilters_unmetered (.ready v) p.segments
  have hresolved : x.unmetered.resolvedCount = x.resolvedCount.filter isLog := by
    unfold resolvedCount
    cases x.recordMetrics <;> rfl
  have hregistry : x.unmetered.registry = x.registry.unmetered := rfl
  rw [run_filtered, run_filtered, hregistry, hfinal]
  rcases (x.registry.applyFilters (.ready v) p.segments).2.readable with e | w
  · exact congrArg (Outcome.mk · _) hsteps
  · refine congrArg (Outcome.mk · _) ?_
    rw [List.filter_append, ← hsteps, ← hresolved]

/-- Without metrics a slot is resolved in the same way and shows the log entries, if what is nested
in it does. -/
theorem run_resolveSlot_unmetered {nested nested' : List Char → Task}
    (h : ∀ text, (nested' text).run = (nested text).run.keep isLog) (body : List Char) :
    (x.unmetered.resolveSlot nested' body).run = (x.resolveSlot nested body).run.keep isLog := by
  rcases reading x.scopes body with ⟨hread⟩ | ⟨hread, hres⟩ | ⟨hread, hres⟩ | ⟨hread, hres, hv⟩
  · rw [resolveSlot_of_malformed hread, resolveSlot_of_malformed hread, Task.run_after,
      Task.run_after, Task.run, List.append_nil, List.append_nil]
    exact congrArg (Outcome.mk · _) (x.registry.report_unmetered _ _)
  · rw [resolveSlot_of_fault hread hres, resolveSlot_of_fault (x := x.unmetered) hread hres]
    rfl
  · rw [resolveSlot_of_text hread hres, resolveSlot_of_text (x := x.unmetered) hread hres,
      Task.run_bind, Task.run_bind, h, Outcome.keep_andThen]
    refine Outcome.andThen_congr ?_
    intro piece _
    exact x.run_filtered_unmetered _ _ _
  · rw [resolveSlot_of_value hread hres hv, resolveSlot_of_value (x := x.unmetered) hread hres hv]
    exact x.run_filtered_unmetered _ _ _

/-- **Without metrics a template is expanded to the same text, and of what is shown the log entries
are left.** -/
theorem run_expand_unmetered (fuel : Nat) (template : List Char) :
    (x.unmetered.expand fuel template).run = (x.expand fuel template).run.keep isLog := by
  induction fuel generalizing template with
  | zero =>
    rw [run_expand_zero, run_expand_zero]
    exact congrArg (Outcome.mk · _) (Diagnostics.userError_unmetered _ _ _)
  | succ fuel ih =>
    by_cases hslots : (scan template).slots = []
    · rw [run_expand_of_no_slots hslots, run_expand_of_no_slots hslots]
      rfl
    · have hall : Task.runAll (x.unmetered.slotTasks fuel template) =
          (Task.runAll (x.slotTasks fuel template)).keep isLog := by
        apply Task.keep_runAll
        intro slot _
        exact x.run_resolveSlot_unmetered ih slot.body
      rw [run_expand_of_slots hslots, run_expand_of_slots hslots, hall]
      rfl

/-- Without metrics a slot writes the same, if what is nested in it comes to the same and writes the
same. -/
theorem writes_resolveSlot_unmetered {nested nested' : List Char → Task}
    (hresult : ∀ text, (nested' text).run.result = (nested text).run.result)
    (hwrites : ∀ text, (nested' text).writes = (nested text).writes) (body : List Char) :
    (x.unmetered.resolveSlot nested' body).writes = (x.resolveSlot nested body).writes := by
  have hfiltered (p : Placeholder) (v : Value) (exhausted : Bool) :
      (x.unmetered.filtered p v exhausted).writes = (x.filtered p v exhausted).writes := by
    have hfinal := (x.registry.applyFilters_unmetered (.ready v) p.segments).2
    rw [writes_filtered, writes_filtered, ← hfinal]
    rfl
  rcases reading x.scopes body with
    ⟨hread⟩ | ⟨hread, hres⟩ | @⟨p, text, hread, hres⟩ | ⟨hread, hres, hv⟩
  · rw [resolveSlot_of_malformed hread, resolveSlot_of_malformed hread, Task.writes_after,
      Task.writes_after, Registry.report, Registry.report, Registry.filterMap_written_observe,
      Registry.filterMap_written_observe]
  · rw [resolveSlot_of_fault hread hres, resolveSlot_of_fault (x := x.unmetered) hread hres]
  · rw [resolveSlot_of_text hread hres, resolveSlot_of_text (x := x.unmetered) hread hres]
    cases hnested : (nested text.toList).run.result with
    | error e =>
      rw [Task.writes_bind_of_error _ hnested,
        Task.writes_bind_of_error _ ((hresult _).trans hnested), hwrites]
    | ok piece =>
      rw [Task.writes_bind_of_ok _ hnested, Task.writes_bind_of_ok _ ((hresult _).trans hnested),
        hwrites, hfiltered]
  · rw [resolveSlot_of_value hread hres hv, resolveSlot_of_value (x := x.unmetered) hread hres hv,
      hfiltered]

/-- **Without metrics an expansion writes the same values.** -/
theorem writes_expand_unmetered (fuel : Nat) (template : List Char) :
    (x.unmetered.expand fuel template).writes = (x.expand fuel template).writes := by
  have hresult (fuel : Nat) (text : List Char) :
      (x.unmetered.expand fuel text).run.result = (x.expand fuel text).run.result := by
    rw [run_expand_unmetered]
    rfl
  induction fuel generalizing template with
  | zero =>
    rw [expand, expand, Task.writes_after, Task.writes_after, Registry.report, Registry.report,
      Registry.filterMap_written_observe, Registry.filterMap_written_observe]
  | succ fuel ih =>
    rw [writes_expand_succ, writes_expand_succ]
    refine Task.writesAll_congr fun slot _ => ⟨?_, ?_⟩
    · rw [x.run_resolveSlot_unmetered (x.run_expand_unmetered fuel)]
      rfl
    · exact x.writes_resolveSlot_unmetered (hresult fuel) ih slot.body

end Expander

namespace Service

/-- The same service, but no metrics are recorded. -/
def unmetered (s : Service) : Service :=
  { s with registry := s.registry.unmetered, recordMetrics := false }

/-- Without metrics a request gets the same answer, and of what is shown the log entries are
left. -/
theorem expand_unmetered (s : Service) (request : Request) :
    s.unmetered.expand request = (s.expand request).keep isLog := by
  have htask : (s.unmetered.task request).run = (s.task request).run.keep isLog := by
    rcases text_or_fails request with ⟨template, htemplate⟩ | hfail
    · rw [run_task htemplate, run_task htemplate, Outcome.keep_andThen]
      have hexpand : ((s.unmetered.expander request).expand (s.unmetered.levels request)
          template.toList).run = _ := (s.expander request).run_expand_unmetered _ _
      rw [hexpand]
      refine Outcome.andThen_congr ?_
      intro piece _
      refine congrArg (Outcome.mk · _) ?_
      unfold finalCounts
      cases s.recordMetrics <;> rfl
    · rw [hfail, hfail]
      rfl
  unfold expand reply
  rw [htask]
  rfl

/-- Without metrics a request gets the same answer, or the same failure. -/
theorem result_answer_unmetered (s : Service) (request : Request) :
    (s.unmetered.answer request).result = (s.answer request).result := by
  have hfault : s.unmetered.fault? request = s.fault? request := by
    unfold fault?
    rcases text_or_fails request with ⟨template, htemplate⟩ | hfail
    · rw [writes_task htemplate, writes_task htemplate]
      exact congrArg firstFault? ((s.expander request).writes_expand_unmetered _ _)
    · rw [hfail, hfail]
  rw [result_answer, result_answer, hfault, expand_unmetered]
  rfl

end Service

end UrlTemplate
