import UrlTemplate.Proofs.Expansion.Run
import UrlTemplate.Proofs.Filter.Chain
import UrlTemplate.Proofs.Filter.Hash

/-!
# What an expansion shows before it ends

A chain shows reports of problems of a few kinds (`chainProblems`) and counts of applications, one
after the other, whatever its handlers do: `Registry.Shows` is the smallest such property of what is
shown, and it holds of every chain (`Registry.shows_applyFilters`).

`Observation.Own` lists what a slot can show besides what is nested in it: problems (`slotProblems`)
with their counts, applications of filters, and that it was resolved. The end of a placeholder shows
nothing else (`Expander.own_filtered`). `Observation.Inner` lists what can be shown inside an
expansion, notes and the lack of depth among it, and by induction on the levels an expansion shows
nothing else (`Expander.inner_expand`). So the counts of the end of an expansion are not made inside
it (`Expander.tally_expand_of_not_inner`).
-/

namespace UrlTemplate

open Template

/-- What can be shown inside an expansion. -/
inductive Observation.Inner : Observation → Prop
  | note (context : Fields) : Inner (Diagnostics.debug "expanding_template" context)
  | problem (event : String) (context : Fields) :
      Inner (.log (Diagnostics.entry .error event context))
  | diagnosed (event : String) : Inner (.count (.diagnostics event))
  | applied (name : String) (ok : Bool) : Inner (.count (.filter name ok))
  | resolved : Inner (.count .placeholders)

/-- The problems that a chain of filters can have: with a segment, with a filter, or with the
digest. -/
def chainProblems : List String :=
  ["invalid_filter", "invalid_filter_name", "filter_failed", "digest_unavailable"]

/-- The problems that a slot can have: with its body, with a filter, or with the digest. -/
def slotProblems : List String :=
  ["invalid_placeholder", "invalid_filter", "invalid_filter_name", "filter_failed",
    "digest_unavailable"]

/-- What a slot can show besides what is nested in it. -/
inductive Observation.Own : Observation → Prop
  | problem {event : String} (h : event ∈ slotProblems) (context : Fields) :
      Own (.log (Diagnostics.entry .error event context))
  | diagnosed (event : String) : Own (.count (.diagnostics event))
  | applied (name : String) (ok : Bool) : Own (.count (.filter name ok))
  | resolved : Own (.count .placeholders)

/-- What a slot shows is shown inside an expansion. -/
theorem Observation.Own.inner {o : Observation} (h : o.Own) : o.Inner := by
  cases h with
  | problem h context => exact .problem _ _
  | diagnosed event => exact .diagnosed event
  | applied name ok => exact .applied name ok
  | resolved => exact .resolved

/-- A report shows a count and a problem. -/
theorem Diagnostics.mem_userError {d : Diagnostics} {event : String} {context : Fields}
    {o : Observation} (h : o ∈ d.userError event context) :
    o = .count (.diagnostics event) ∨ o = .log (entry .error event context) := by
  unfold userError at h
  rcases List.mem_append.mp h with hcount | hlog
  · cases hmetrics : d.recordMetrics with
    | false =>
      rw [hmetrics] at hcount
      cases hcount
    | true =>
      rw [hmetrics] at hcount
      exact .inl (List.mem_singleton.mp hcount)
  · exact .inr (List.mem_singleton.mp hlog)

/-- A report can be shown inside an expansion. -/
theorem Diagnostics.inner_userError (d : Diagnostics) (event : String) (context : Fields) :
    ∀ o ∈ d.userError event context, o.Inner := by
  intro o ho
  rcases mem_userError ho with rfl | rfl
  · exact .diagnosed event
  · exact .problem event _

/-- A report of a problem that a slot can have can be shown by a slot. -/
theorem Diagnostics.own_userError {event : String} (h : event ∈ slotProblems) (d : Diagnostics)
    (context : Fields) : ∀ o ∈ d.userError event context, o.Own := by
  intro o ho
  rcases mem_userError ho with rfl | rfl
  · exact .diagnosed event
  · exact .problem h _

/-! ### Chains -/

/-- What keeps `hash` from hashing is a problem that a chain can have. -/
theorem HashProblem.event_mem (problem : HashProblem) : problem.event ∈ chainProblems := by
  unfold chainProblems
  rcases problem with _ | kind | (message | message) <;> simp [event]

/-- What a registry can show while it applies filters: reports of problems and counts of
applications, one after the other. -/
inductive Registry.Shows (r : Registry) : List Observation → Prop
  | nothing : Shows r []
  | report {event : String} (h : event ∈ chainProblems) (details : Fields) :
      Shows r (r.context.diagnostics.userError event details)
  | application (name : String) (ok : Bool) :
      Shows r (Step.observations (r.countApplication name ok))
  | append {as bs : List Observation} (has : Shows r as) (hbs : Shows r bs) : Shows r (as ++ bs)

namespace Registry

variable {r : Registry}

/-- What a registry shows while it applies filters can be shown by a slot. -/
theorem Shows.own {os : List Observation} (h : r.Shows os) : ∀ o ∈ os, o.Own := by
  induction h with
  | nothing =>
    intro o ho
    cases ho
  | report hevent details =>
    exact Diagnostics.own_userError (List.mem_cons_of_mem _ hevent) _ details
  | application name ok =>
    intro o ho
    unfold countApplication at ho
    rcases hmetrics : r.context.recordMetrics with _ | _
    · rw [hmetrics] at ho
      cases ho
    · rw [hmetrics] at ho
      rw [List.mem_singleton.mp ho]
      exact .applied name ok
  | append has hbs ihas ihbs =>
    intro o ho
    rcases List.mem_append.mp ho with ho | ho
    · exact ihas o ho
    · exact ihbs o ho

variable (r)

/-- A digest that fails is reported. -/
theorem shows_hash (item : Item) : r.Shows (r.context.hash item).1 := by
  obtain ⟨result, hresult⟩ := r.context.exists_hashesTo item
  rw [hresult.hash_eq]
  rcases result with problem | hash
  · exact .report problem.event_mem _
  · exact .nothing

/-- A handler shows nothing of its own but a failing digest. -/
theorem shows_run (handler : Handler) (item : Item) (args : List String) :
    r.Shows (Step.observations (handler.run r.context item args).steps) := by
  cases handler with
  | sync apply =>
    have hpauses := Step.observations_pauses item.pauses
    exact hpauses ▸ .nothing
  | async apply =>
    have hpauses := Step.observations_pauses (apply item args).pauses
    exact hpauses ▸ .nothing
  | hash =>
    have hsteps : Step.observations (Handler.hash.run r.context item args).steps =
        (r.context.hash item).1 := Step.observations_map_observe _
    rw [hsteps]
    exact r.shows_hash item

/-- A segment shows an application or a problem. -/
theorem shows_applySegment (item : Item) (segment : String) :
    r.Shows (Step.observations (r.applySegment item segment).1) := by
  rcases hparse : FilterCall.parse segment with e | call
  · rw [applySegment_of_malformed hparse, observations_report]
    exact .report (by decide) _
  · rcases hget : r.get? call.name with _ | handler
    · rw [applySegment_of_unknown hparse hget, observations_report]
      exact .report (by decide) _
    · have hrun := r.shows_run handler item call.args
      rw [applySegment_of_handler hparse hget]
      rcases houtcome : (handler.run r.context item call.args).outcome with e | next
      · rw [applyHandler_of_error houtcome]
        simp only [Step.observations_append, observations_report]
        exact (hrun.append (.application _ _)).append (.report (by decide) _)
      · rw [applyHandler_of_ok houtcome, Step.observations_append]
        exact hrun.append (.application _ _)

/-- A chain shows what its segments show. -/
theorem shows_applyFilters (item : Item) (segments : List String) :
    r.Shows (Step.observations (r.applyFilters item segments).1) := by
  induction segments generalizing item with
  | nil =>
    rw [applyFilters_nil]
    exact .nothing
  | cons segment rest ih =>
    rw [applyFilters_cons, Step.observations_append]
    exact (r.shows_applySegment item segment).append (ih _)

end Registry

/-! ### Expansions -/

namespace Outcome

/-- All that an outcome shows can be shown inside an expansion. -/
def Inner {α : Type} (outcome : Outcome α) : Prop :=
  ∀ o ∈ outcome.observations, o.Inner

/-- Going on after an outcome shows what both show. -/
theorem Inner.andThen {α β : Type} {first : Outcome α} (h : first.Inner) {next : α → Outcome β}
    (hnext : ∀ a, (next a).Inner) : (first.andThen next).Inner := by
  cases hr : first.result with
  | error e =>
    rw [andThen_of_error hr]
    exact h
  | ok a =>
    rw [andThen_of_ok hr]
    intro o ho
    rcases List.mem_append.mp ho with ho | ho
    · exact h o ho
    · exact hnext a o ho

/-- What shows nothing shows nothing else. -/
theorem inner_of_nil {α : Type} (result : Except ExpansionError α) :
    Inner ⟨[], result⟩ := by
  intro o ho
  cases ho

end Outcome

/-- Tasks in a row show what each of them shows. -/
theorem Task.inner_runAll {ts : List Task} (h : ∀ t ∈ ts, t.run.Inner) : (runAll ts).Inner := by
  induction ts with
  | nil =>
    rw [runAll_nil]
    exact Outcome.inner_of_nil _
  | cons t ts ih =>
    rw [runAll_cons]
    refine (h t List.mem_cons_self).andThen ?_
    intro piece
    have hrest := ih fun u hu => h u (List.mem_cons_of_mem _ hu)
    refine hrest.andThen ?_
    intro pieces
    exact Outcome.inner_of_nil _

namespace Expander

variable {x : Expander}

/-- The end of a placeholder shows its chain, and its count. -/
theorem own_filtered (p : Placeholder) (v : Value) (exhausted : Bool) :
    ∀ o ∈ (x.filtered p v exhausted).run.observations, o.Own := by
  have hchain := (x.registry.shows_applyFilters (.ready v) p.segments).own
  rw [run_filtered]
  cases (x.registry.applyFilters (.ready v) p.segments).2.readable with
  | error e => exact hchain
  | ok w =>
    intro o ho
    rcases List.mem_append.mp ho with ho | ho
    · exact hchain o ho
    · unfold resolvedCount at ho
      cases hmetrics : x.recordMetrics with
      | false =>
        rw [hmetrics] at ho
        cases ho
      | true =>
        rw [hmetrics] at ho
        rw [List.mem_singleton.mp ho]
        exact .resolved

/-- The end of a placeholder can be shown inside an expansion. -/
theorem inner_filtered (p : Placeholder) (v : Value) (exhausted : Bool) :
    (x.filtered p v exhausted).run.Inner := by
  intro o ho
  exact (own_filtered p v exhausted o ho).inner

/-- A slot shows what is nested in it and what its placeholder shows. -/
theorem inner_resolveSlot {nested : List Char → Task} (h : ∀ text, (nested text).run.Inner)
    (body : List Char) : (x.resolveSlot nested body).run.Inner := by
  cases reading x.scopes body with
  | malformed hread =>
    rw [resolveSlot_of_malformed hread, Task.run_after, Task.run, List.append_nil,
      Registry.observations_report]
    exact Diagnostics.inner_userError _ _ _
  | fault hread hres =>
    rw [resolveSlot_of_fault hread hres, Task.run]
    exact Outcome.inner_of_nil _
  | @text p s hread hres =>
    rw [resolveSlot_of_text hread hres, Task.run_bind]
    refine (h s.toList).andThen ?_
    intro piece
    exact inner_filtered p _ _
  | @value p v hread hres hv =>
    rw [resolveSlot_of_value hread hres hv]
    exact inner_filtered p v false

/-- An expansion shows nothing but what can be shown inside an expansion. -/
theorem inner_expand (fuel : Nat) (template : List Char) : (x.expand fuel template).run.Inner := by
  induction fuel generalizing template with
  | zero =>
    rw [run_expand_zero]
    exact Diagnostics.inner_userError _ _ _
  | succ fuel ih =>
    by_cases hslots : (scan template).slots = []
    · rw [run_expand_of_no_slots hslots]
      exact Outcome.inner_of_nil _
    · rw [run_expand_of_slots hslots]
      have hall : (Task.runAll (x.slotTasks fuel template)).Inner := by
        refine Task.inner_runAll ?_
        intro task htask
        obtain ⟨slot, -, rfl⟩ := List.mem_map.mp htask
        exact inner_resolveSlot ih slot.body
      intro o ho
      rcases List.mem_cons.mp ho with rfl | ho
      · exact .note _
      · exact hall o ho

/-- What belongs to the end of an expansion is not counted inside it. -/
theorem tally_expand_of_not_inner (fuel : Nat) (template : List Char) {counter : Counter}
    (h : counter.isInner = false) :
    Observation.tally (x.expand fuel template).run.observations counter = 0 := by
  unfold Observation.tally Observation.increments
  rw [List.count_eq_zero]
  intro hmem
  obtain ⟨o, ho, hcounter⟩ := List.mem_filterMap.mp hmem
  cases inner_expand fuel template o ho <;> cases hcounter <;> cases h

end Expander

end UrlTemplate
