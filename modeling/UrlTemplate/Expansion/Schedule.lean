import UrlTemplate.Expansion.Service

/-!
# Requests side by side

A `Pool` holds the tasks of requests that run side by side, and the subtasks that were called off by
a failure and have not stopped yet. One `Pool.Move` is a move of any of them: of a request's task,
at any depth, or of a subtask that does not know yet that it was called off. `Pool.Run` is a run
under some scheduler, so a statement about every `Pool.Run` holds under every scheduler.
-/

namespace UrlTemplate

/-- What a task has answered, if it has ended. -/
def Task.answer? : Task → Option (Except ExpansionError String)
  | .done piece => some (.ok (String.ofList piece.text))
  | .fail error => some (.error error)
  | _ => none

/-- Tasks that run side by side. -/
structure Pool where
  /-- The tasks of the requests. -/
  tasks : List Task
  /-- The subtasks that were called off and have not stopped. -/
  calledOff : List Task

namespace Pool

/-- One move in a pool, with the step that is taken if one is. -/
inductive Move : Pool → Option Step → Pool → Prop
  /-- The task of a request moves. -/
  | task {before after off calledOff : List Task} {t t' : Task} {s : Option Step} :
      t.Advance s off t' →
        Move ⟨before ++ t :: after, calledOff⟩ s ⟨before ++ t' :: after, calledOff ++ off⟩
  /-- A subtask moves on after it was called off. -/
  | late {tasks before after off : List Task} {t t' : Task} {s : Option Step} :
      t.Advance s off t' →
        Move ⟨tasks, before ++ t :: after⟩ s ⟨tasks, before ++ t' :: after ++ off⟩
  /-- A subtask that was called off stops, and calls its own subtasks off. -/
  | stop {tasks before after : List Task} {t : Task} :
      Move ⟨tasks, before ++ t :: after⟩ none ⟨tasks, before ++ t.subtasks ++ after⟩

/-- A run of a pool under some scheduler, with the steps of its moves. -/
inductive Run : Pool → List (Option Step) → Pool → Prop
  | refl (pool : Pool) : Run pool [] pool
  | move {first next last : Pool} {s : Option Step} {steps : List (Option Step)} :
      Move first s next → Run next steps last → Run first (s :: steps) last

/-- What the moves of a run show. -/
def shown (steps : List (Option Step)) : List Observation :=
  Step.observations (steps.filterMap id)

end Pool

/-- The requests of a service side by side, none of them begun. -/
def Service.pool (s : Service) (requests : List Request) : Pool :=
  ⟨requests.map s.task, []⟩

end UrlTemplate
