import UrlTemplate.Host
import UrlTemplate.Proofs.Expansion.Concurrency
import UrlTemplate.Proofs.Expansion.Tree
import UrlTemplate.Proofs.Expansion.Unmetered

/-!
# The counters agree with the log

`Observation.Agree` says that problems are counted as often as they are logged, or never if the
diagnostics count nothing, and that as many placeholders are resolved or malformed as notes
announce, and some more. Reports, counts and notes have it, each with a number of its own, and
observations in a row have it with the sum of their numbers (`Agree.append`, `Agree.flatMap`). A
chain has none to add, whatever its handlers do (`Registry.Shows.agree`), a slot adds one
(`Expander.agree_resolveSlot`), which the note of its template has announced, so an expansion that
succeeds adds none, by induction on the levels (`Expander.agree_expand`).

`Observation.Consistent` is what follows for a whole answer, with the counts of its end. It does not
depend on the order of what is shown, so it holds of every schedule.

**Theorem** (`Service.consistent_expand`): what an answer shows is consistent, in every schedule,
and without metrics nothing is left of it but the log entries.
-/

namespace UrlTemplate

open Template

/-- The number of placeholders that an entry announces, if it is the note of an expansion. -/
def LogEntry.announced (entry : LogEntry) : Int :=
  if entry.level = .debug ∧ entry.event = "expanding_template" then
    match entry.context.lookup "placeholders" with
    | some (.int n) => n
    | _ => 0
  else 0

namespace Observation

/-- How many problems of a kind are logged. -/
def problems (os : List Observation) (event : String) : Nat :=
  (errors os).countP (·.event = event)

/-- The number of placeholders that notes announce. -/
def announced (os : List Observation) : Int :=
  ((logs os).map LogEntry.announced).sum

/-- The problems of two runs are those of the first and those of the second. -/
@[simp] theorem problems_append (as bs : List Observation) (event : String) :
    problems (as ++ bs) event = problems as event + problems bs event := by
  simp [problems]

/-- The notes of two runs announce what those of the first and those of the second announce. -/
@[simp] theorem announced_append (as bs : List Observation) :
    announced (as ++ bs) = announced as + announced bs := by
  simp [announced]

/-- How many problems are logged does not depend on the order of what is shown. -/
theorem problems_eq_of_perm {as bs : List Observation} (h : as.Perm bs) (event : String) :
    problems as event = problems bs event := by
  unfold problems errors
  exact ((perm_logs h).filter _).countP_eq _

/-- What notes announce does not depend on the order of what is shown. -/
theorem announced_eq_of_perm {as bs : List Observation} (h : as.Perm bs) :
    announced as = announced bs := by
  unfold announced
  exact ((perm_logs h).map _).sum_eq

/-! ### Agreement -/

/-- How often the diagnostics of a service have counted a problem: as often as it is logged, if they
count at all. -/
def counted (d : Diagnostics) (os : List Observation) (event : String) : Nat :=
  if d.recordMetrics then problems os event else 0

/-- The counts of two runs are those of the first and those of the second. -/
@[simp] theorem counted_append (d : Diagnostics) (as bs : List Observation) (event : String) :
    counted d (as ++ bs) event = counted d as event + counted d bs event := by
  unfold counted
  cases d.recordMetrics <;> simp

/-- The counters agree with the log, but for a number of placeholders that were not announced. -/
structure Agree (d : Diagnostics) (os : List Observation) (further : Nat) : Prop where
  /-- Problems are counted as often as they are logged, if at all. -/
  diagnostics : ∀ event, tally os (.diagnostics event) = counted d os event
  /-- The placeholders that were resolved or malformed are those that were announced, and the
  further ones. -/
  placeholders :
    (tally os .placeholders + problems os "invalid_placeholder" : Int) = announced os + further

namespace Agree

variable {d : Diagnostics} {as bs os : List Observation} {m n : Nat}

/-- Nothing agrees with nothing. -/
theorem nil : Agree d [] 0 :=
  ⟨fun _ => (ite_self 0).symm, rfl⟩

/-- The further placeholders of two runs add up. -/
theorem append (has : Agree d as m) (hbs : Agree d bs n) : Agree d (as ++ bs) (m + n) := by
  constructor
  · intro event
    rw [tally_append, counted_append, has.diagnostics, hbs.diagnostics]
  · have hfirst := has.placeholders
    have hsecond := hbs.placeholders
    rw [tally_append, problems_append, announced_append]
    omega

/-- Of several runs with one further placeholder each there are as many as there are runs. -/
theorem flatMap {α : Type} {xs : List α} {f : α → List Observation}
    (h : ∀ x ∈ xs, Agree d (f x) 1) : Agree d (xs.flatMap f) xs.length := by
  induction xs with
  | nil => exact nil
  | cons x xs ih =>
    have hrest := ih fun y hy => h y (List.mem_cons_of_mem _ hy)
    rw [List.flatMap_cons, List.length_cons, Nat.add_comm]
    exact (h x List.mem_cons_self).append hrest

/-- A report agrees with its count; a malformed placeholder is one that was not announced. -/
theorem report (d : Diagnostics) (event : String) (details : Fields) :
    Agree d (d.userError event details) (if event = "invalid_placeholder" then 1 else 0) := by
  have hincrements : increments (d.userError event details) =
      if d.recordMetrics then [.diagnostics event] else [] := by
    unfold Diagnostics.userError
    cases d.recordMetrics <;> rfl
  have hproblems (event' : String) :
      problems (d.userError event details) event' = if event = event' then 1 else 0 := by
    unfold problems
    rw [errors_userError]
    simp [Diagnostics.entry, List.countP_cons]
  constructor
  · intro event'
    unfold tally counted
    rw [hproblems, hincrements]
    cases d.recordMetrics <;> simp [List.count_singleton]
  · unfold tally announced
    rw [hproblems, hincrements, logs_userError]
    cases d.recordMetrics <;> simp [LogEntry.announced, Diagnostics.entry]

/-- Applications and ends have nothing to do with problems and placeholders. -/
theorem count {counter : Counter} (hdiagnostics : ∀ event, counter ≠ .diagnostics event)
    (hplaceholders : counter ≠ .placeholders) : Agree d [.count counter] 0 := by
  have hlogs : logs [.count counter] = [] := rfl
  have hincrements : increments [.count counter] = [counter] := rfl
  constructor
  · intro event
    unfold tally counted problems errors
    rw [hincrements, hlogs, List.count_singleton]
    simpa using hdiagnostics event
  · unfold tally problems errors announced
    rw [hincrements, hlogs, List.count_singleton]
    simpa using hplaceholders

/-- A placeholder that is resolved is one that was not announced. -/
theorem resolved : Agree d [.count .placeholders] 1 :=
  ⟨fun _ => (ite_self 0).symm, rfl⟩

/-- The note of an expansion announces the further placeholders. -/
theorem note (h : Agree d os n) (left : Int) :
    Agree d (Diagnostics.debug "expanding_template"
      [("placeholders", .int n), ("iterations", .int left)] :: os) 0 := by
  constructor
  · exact h.diagnostics
  · have hsame := h.placeholders
    have hannounced : announced (Diagnostics.debug "expanding_template"
        [("placeholders", .int n), ("iterations", .int left)] :: os) = n + announced os := rfl
    rw [hannounced]
    show (tally os .placeholders + problems os "invalid_placeholder" : Int) = _
    omega

end Agree

end Observation

open Observation

/-! ### Chains and expansions -/

/-- What a registry shows while it applies filters has nothing to do with placeholders. -/
theorem Registry.Shows.agree {r : Registry} {os : List Observation} (h : r.Shows os) :
    Agree r.context.diagnostics os 0 := by
  induction h with
  | nothing => exact .nil
  | @report event hevent details =>
    have hne : event ≠ "invalid_placeholder" := by
      rintro rfl
      revert hevent
      decide
    have hreport := Agree.report r.context.diagnostics event details
    rw [if_neg hne] at hreport
    exact hreport
  | application name ok =>
    unfold countApplication
    cases r.context.recordMetrics with
    | false => exact .nil
    | true => exact .count (by simp) (by simp)
  | append has hbs ihas ihbs => exact ihas.append ihbs

namespace Expander

variable {x : Expander}

/-- The end of a placeholder that succeeds has resolved the one placeholder. -/
theorem agree_filtered (hmetrics : x.recordMetrics = true) {p : Placeholder}
    {v : Value} {exhausted : Bool} {piece : Piece}
    (hok : (x.filtered p v exhausted).run.result = .ok piece) :
    Agree x.registry.context.diagnostics (x.filtered p v exhausted).run.observations 1 := by
  have hchain := (x.registry.shows_applyFilters (.ready v) p.segments).agree
  have hcount : x.resolvedCount = [.count .placeholders] := if_pos hmetrics
  rw [run_filtered] at hok ⊢
  rcases hread : (x.registry.applyFilters (.ready v) p.segments).2.readable with e | w
  · rw [hread] at hok
    cases hok
  · simp only [hcount]
    exact hchain.append .resolved

/-- A slot that succeeds has one placeholder, if what is nested in it has announced its own. -/
theorem agree_resolveSlot (hmetrics : x.recordMetrics = true) {nested : List Char → Task}
    (hnested : ∀ (text : String) inner, (nested text.toList).run.result = .ok inner →
      Agree x.registry.context.diagnostics (nested text.toList).run.observations 0)
    {body : List Char} {piece : Piece}
    (hok : (x.resolveSlot nested body).run.result = .ok piece) :
    Agree x.registry.context.diagnostics (x.resolveSlot nested body).run.observations 1 := by
  rcases reading x.scopes body with
    ⟨hread⟩ | ⟨hread, hres⟩ | @⟨p, text, hread, hres⟩ | ⟨hread, hres, hv⟩
  · rw [resolveSlot_of_malformed hread, Task.run_after, Task.run, List.append_nil,
      Registry.observations_report]
    exact .report _ "invalid_placeholder" _
  · rw [resolveSlot_of_fault hread hres, Task.run] at hok
    cases hok
  · rw [resolveSlot_of_text hread hres, Task.run_bind] at hok ⊢
    rcases hinner : (nested text.toList).run.result with e | inner
    · rw [Outcome.andThen_of_error hinner] at hok
      cases hok
    · rw [Outcome.andThen_of_ok hinner] at hok ⊢
      exact (hnested _ inner hinner).append (agree_filtered hmetrics hok)
  · rw [resolveSlot_of_value hread hres hv] at hok ⊢
    exact agree_filtered hmetrics hok

/-- **What an expansion that succeeds has logged and counted agrees.** -/
theorem agree_expand (hmetrics : x.recordMetrics = true) {fuel : Nat} {template : String}
    {piece : Piece} (hok : (x.expand fuel template.toList).run.result = .ok piece) :
    Agree x.registry.context.diagnostics (x.expand fuel template.toList).run.observations 0 := by
  induction fuel generalizing template piece with
  | zero =>
    rw [run_expand_zero]
    exact .report _ "max_depth_reached" _
  | succ fuel ih =>
    by_cases hslots : (scan template.toList).slots = []
    · rw [run_expand_of_no_slots hslots]
      exact .nil
    · obtain ⟨hall, hsucceed⟩ := slots_ok hok
      have hslotwise : Agree x.registry.context.diagnostics
          (Task.runAll (x.slotTasks fuel template.toList)).observations
          (scan template.toList).slots.length := by
        rw [hall]
        apply Agree.flatMap
        intro slot hslot
        obtain ⟨inner, hinner, -⟩ := hsucceed slot hslot
        exact agree_resolveSlot hmetrics (fun text inner => ih) hinner
      rw [run_expand_of_slots hslots]
      exact hslotwise.note fuel

end Expander

/-! ### Answers -/

/-- What an answer shows is consistent: its log and its counters agree, and its end is counted
once. -/
structure Observation.Consistent (d : Diagnostics) (os : List Observation) : Prop where
  /-- Problems are counted as often as they are logged, if at all. -/
  diagnostics : ∀ event,
    tally os (.diagnostics event) = if d.recordMetrics then problems os event else 0
  /-- The placeholders that were resolved or malformed are those that were announced. -/
  placeholders :
    (tally os .placeholders + problems os "invalid_placeholder" : Int) = announced os
  /-- One end is counted, once. -/
  ending : ∃ exhausted, ∀ exhausted',
    tally os (.expansions exhausted') = if exhausted' = exhausted then 1 else 0
  /-- The duration is measured once. -/
  latency : tally os .latency = 1

/-- Consistency does not depend on the order of what is shown. -/
theorem Observation.Consistent.perm {d : Diagnostics} {as bs : List Observation}
    (h : Consistent d as) (hperm : as.Perm bs) : Consistent d bs := by
  have hcounts := tally_eq_of_perm hperm
  have hproblems := problems_eq_of_perm hperm
  constructor
  · simpa only [hcounts, hproblems] using h.diagnostics
  · simpa only [hcounts, hproblems, announced_eq_of_perm hperm] using h.placeholders
  · simpa only [hcounts] using h.ending
  · simpa only [hcounts] using h.latency

namespace Service

variable {s : Service} {request : Request}

/-- What a request that succeeds shows is consistent. -/
theorem consistent_of_ok (hmetrics : s.recordMetrics = true) {text : String}
    (hok : (s.expand request).result = .ok text) :
    Consistent s.registry.context.diagnostics (s.expand request).observations := by
  obtain ⟨template, piece, htemplate, hpiece⟩ := exists_piece_of_ok hok
  have hagree := Expander.agree_expand hmetrics hpiece
  have hends {counter : Counter} (h : counter.isInner = false) :=
    tally_end_of_ok htemplate hmetrics hpiece h
  have hinner {counter : Counter} (h : counter.isInner = true) :=
    tally_expand (s := s) htemplate h
  have hlogs := logs_expand (s := s) htemplate
  constructor
  · intro event
    rw [hinner rfl, hagree.diagnostics]
    unfold counted problems errors
    rw [hlogs]
    rfl
  · have hsame := hagree.placeholders
    unfold problems errors announced at hsame ⊢
    rw [hinner rfl, hlogs, hsame]
    simp
  · refine ⟨piece.exhausted, ?_⟩
    intro exhausted
    rw [hends rfl]
    cases piece.exhausted <;> cases exhausted <;> rfl
  · rw [hends rfl]
    rfl

/-- **What an answer shows is consistent: its problems are counted as often as they are logged, or
never if the diagnostics of the service count nothing, its placeholders as often as they are
announced, and its end once.** Without metrics there is the same answer, or the same failure, the
log entries of an answer are the same, and nothing is counted. So it is in every schedule. -/
theorem consistent_expand (hmetrics : s.recordMetrics = true) (request : Request) :
    (∀ text, (s.answer request).result = .ok text →
      Consistent s.registry.context.diagnostics (s.answer request).observations ∧
      logs (s.unmetered.answer request).observations = logs (s.answer request).observations ∧
      increments (s.unmetered.answer request).observations = []) ∧
    (s.unmetered.answer request).result = (s.answer request).result ∧
    (∀ text, (s.expand request).result = .ok text →
      Consistent s.registry.context.diagnostics (s.expand request).observations) ∧
    (∀ steps pool, (s.pool [request]).Run steps pool → pool.Succeeded →
      Consistent s.registry.context.diagnostics (Pool.shown steps)) ∧
    ((s.unmetered.expand request).result = (s.expand request).result ∧
      logs (s.unmetered.expand request).observations = logs (s.expand request).observations ∧
      increments (s.unmetered.expand request).observations = []) ∧
    ∀ steps pool, (s.unmetered.pool [request]).Run steps pool → pool.Succeeded →
      pool.tasks.map Task.answer? = [some (s.expand request).result] ∧
      (logs (Pool.shown steps)).Perm (logs (s.expand request).observations) ∧
      increments (Pool.shown steps) = [] := by
  have hunmetered := s.expand_unmetered request
  have hlogs : logs (s.unmetered.expand request).observations =
      logs (s.expand request).observations := by
    rw [hunmetered]
    exact logs_filter_isLog _
  have hincrements : increments (s.unmetered.expand request).observations = [] := by
    rw [hunmetered]
    exact increments_filter_isLog _
  refine ⟨?_, s.result_answer_unmetered request, fun text => consistent_of_ok hmetrics, ?_,
    ⟨by rw [hunmetered]; rfl, hlogs, hincrements⟩, ?_⟩
  · intro text htext
    have hanswer := answer_of_ok htext
    rw [answer_of_ok ((s.result_answer_unmetered request).trans htext), hanswer]
    exact ⟨consistent_of_ok hmetrics (hanswer ▸ htext), hlogs, hincrements⟩
  · intro steps pool hrun hall
    obtain ⟨text, htext⟩ := exists_text_of_run hrun hall request List.mem_cons_self
    have hperm := perm_shown hrun hall
    rw [List.flatMap_singleton] at hperm
    exact (consistent_of_ok hmetrics htext).perm hperm.symm
  · intro steps pool hrun hall
    have hperm := perm_shown hrun hall
    rw [List.flatMap_singleton] at hperm
    refine ⟨?_, ?_, ?_⟩
    · rw [answers_of_run hrun hall, List.map_singleton, hunmetered]
      rfl
    · rw [← hlogs]
      exact perm_logs hperm
    · have hnone := hperm.filterMap counter?
      rw [show (s.unmetered.expand request).observations.filterMap counter? = [] from hincrements]
        at hnone
      exact hnone.eq_nil

/-- A text with a placeholder in it, an unknown filter and a malformed placeholder: two problems and
three placeholders, of which two are resolved. -/
theorem consistent_expand_past_problems :
    let request : Request := ⟨.str "${site|nope}${}", nestedScopes, none, none⟩
    let os := (metered.answer request).observations
    (metered.answer request).result = .ok "/7" ∧
    announced os = 3 ∧ problems os "invalid_placeholder" = 1 ∧ tally os .placeholders = 2 ∧
    tally os (.diagnostics "invalid_filter_name") = 1 ∧
    (metered.unmetered.answer request).result = .ok "/7" := by
  intro request os
  have hwritable : metered.fault? request = none := by
    decide +kernel
  have hresult : (metered.answer request).result = .ok "/7" := by
    rw [answer_of_writable hwritable]
    cbv
  have hannounced : announced os = 3 := by
    decide +kernel
  have hmalformed : problems os "invalid_placeholder" = 1 := by
    decide +kernel
  have hunknown : problems os "invalid_filter_name" = 1 := by
    decide +kernel
  obtain ⟨hconsistent, hsame, -⟩ := metered.consistent_expand rfl request
  have hos : Consistent ⟨true⟩ os := (hconsistent _ hresult).1
  have hplaceholders := hos.placeholders
  rw [hannounced, hmalformed] at hplaceholders
  refine ⟨hresult, hannounced, hmalformed, by omega, ?_, hsame.trans hresult⟩
  exact (hos.diagnostics _).trans hunknown

/-- A log output keeps what is counted, and of the entries those that it writes. -/
def written (out : LogOutput) : Observation → Bool
  | .log entry => out.admits entry
  | .count _ => true

/-- A malformed placeholder is logged and not counted by diagnostics of their own that count
nothing, and counted without metrics by diagnostics that count. And where the log is written from
the default level on, nothing announces it. -/
theorem expand_malformed_apart :
    let request : Request := ⟨.str "${}", .ofEvent [], none, none⟩
    let logged := (new none 2 true true (some ⟨false⟩)).answer request
    let counted := (new none 2 true false (some ⟨true⟩)).answer request
    let settings : Settings := {}
    let answer := settings.toService.answer request
    let os := answer.observations.filter (written settings.logOutput)
    (logged.result = .ok "" ∧ problems logged.observations "invalid_placeholder" = 1 ∧
      tally logged.observations (.diagnostics "invalid_placeholder") = 0) ∧
    (counted.result = .ok "" ∧
      increments counted.observations = [.diagnostics "invalid_placeholder"]) ∧
    answer.result = .ok "" ∧ tally os .placeholders = 0 ∧ problems os "invalid_placeholder" = 1 ∧
      announced os = 0 := by
  intro request logged counted settings answer os
  refine ⟨⟨?_, ?_, ?_⟩, ⟨?_, ?_⟩, ?_, ?_, ?_, ?_⟩
  · cbv
  · decide +kernel
  · decide +kernel
  · cbv
  · decide +kernel
  · cbv
  · decide +kernel
  · decide +kernel
  · decide +kernel

end Service

end UrlTemplate
