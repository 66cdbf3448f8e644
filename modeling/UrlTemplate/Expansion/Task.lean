import UrlTemplate.Filter.Handler
import UrlTemplate.Scope

/-!
# Tasks

A task is work that may be interleaved with other work: it takes steps, ends with a piece of text or
with an error, or forks into subtasks, of which it awaits the pieces in order before it goes on. The
first subtask in that order that fails ends the task with its error.

`Task.run` carries a task out from left to right, and `run_after` and `run_bind` say what it makes
of the ways to put tasks together. `Task.Advance` is one move of a task under any scheduler: a
subtask may move whenever it can, in any order, and a failure calls off the subtasks that come after
it. `Task.turns` counts the rounds that a task takes when all its subtasks move in turn.

A task takes every value that it writes for one that can be written. `Task.checked` is the same task
where that is not so: it fails instead of writing a value that cannot be.
-/

namespace UrlTemplate

/-- Why an expansion gave no text. -/
inductive ExpansionError
  /-- The template is no text. -/
  | templateNotText
  /-- A scope that had to be consulted is no object. -/
  | scope (fault : ScopeFault)
  /-- The final value of a placeholder has no text. -/
  | noText (error : FilterError)
deriving DecidableEq, Repr

/-- The message of a failed expansion. -/
def ExpansionError.message : ExpansionError → String
  | .templateNotText => "template must be a string"
  | .scope fault => fault.message
  | .noText error => error.message

/-- A piece of an expansion: its text, and whether the depth budget ran out below it. -/
structure Piece where
  text : List Char
  exhausted : Bool
deriving DecidableEq, Repr

/-- Work that may be interleaved with other work. -/
inductive Task
  | done (piece : Piece)
  | fail (error : ExpansionError)
  | step (step : Step) (next : Task)
  | fork (children : List Task) (join : List Piece → Task)

/-- What a task has shown and what it ended with. -/
structure Outcome (α : Type) where
  observations : List Observation
  result : Except ExpansionError α

/-- Goes on after a success; what both have shown is kept. -/
def Outcome.andThen {α β : Type} (first : Outcome α) (next : α → Outcome β) : Outcome β :=
  match first.result with
  | .ok a => ⟨first.observations ++ (next a).observations, (next a).result⟩
  | .error error => ⟨first.observations, .error error⟩

namespace Task

/-- Takes some steps first. -/
def after (steps : List Step) (next : Task) : Task :=
  steps.foldr .step next

/-- Goes on with the piece that a task ends with. -/
def bind : Task → (Piece → Task) → Task
  | .done piece, k => k piece
  | .fail error, _ => .fail error
  | .step s next, k => .step s (next.bind k)
  | .fork children join, k => .fork children fun pieces => (join pieces).bind k

/-! ## From left to right -/

mutual

/-- Carries a task out, its subtasks one after the other. -/
def run : Task → Outcome Piece
  | .done piece => ⟨[], .ok piece⟩
  | .fail error => ⟨[], .error error⟩
  | .step s next =>
    let rest := next.run
    ⟨Step.observations [s] ++ rest.observations, rest.result⟩
  | .fork children join =>
    let forked := runAll children
    let continued := fun pieces => (join pieces).run
    match forked.result with
    | .error error => ⟨forked.observations, .error error⟩
    | .ok pieces =>
      ⟨forked.observations ++ (continued pieces).observations, (continued pieces).result⟩

/-- Carries tasks out one after the other, up to the first that fails. -/
def runAll : List Task → Outcome (List Piece)
  | [] => ⟨[], .ok []⟩
  | task :: rest =>
    let first := task.run
    match first.result with
    | .error error => ⟨first.observations, .error error⟩
    | .ok piece =>
      let others := runAll rest
      ⟨first.observations ++ others.observations, (piece :: ·) <$> others.result⟩

end

/-- A step shows what it shows before the rest of the task. -/
theorem run_step (s : Step) (next : Task) :
    (Task.step s next).run =
      ⟨Step.observations [s] ++ next.run.observations, next.run.result⟩ := rfl

/-- A fork goes on after its subtasks, which run one after the other. -/
theorem run_fork (children : List Task) (join : List Piece → Task) :
    (Task.fork children join).run =
      (runAll children).andThen fun pieces => (join pieces).run := by
  simp only [run, Outcome.andThen]
  cases (runAll children).result <;> rfl

/-- Steps taken first show what they show first. -/
theorem run_after (steps : List Step) (next : Task) :
    (after steps next).run =
      ⟨Step.observations steps ++ next.run.observations, next.run.result⟩ := by
  induction steps with
  | nil => rfl
  | cons s steps ih =>
    have h : after (s :: steps) next = .step s (after steps next) := rfl
    rw [h, run_step, ih]
    simp only [Step.observations, List.filterMap_cons, List.filterMap_nil]
    cases s.observation? <;> simp

/-- Going on with a task's piece is going on after its outcome. -/
theorem run_bind : (t : Task) → (k : Piece → Task) →
    (t.bind k).run = t.run.andThen fun piece => (k piece).run
  | .done piece, k => by simp [bind, run, Outcome.andThen]
  | .fail error, k => by simp [bind, run, Outcome.andThen]
  | .step s next, k => by
    rw [bind, run_step, run_bind next k]
    simp only [Outcome.andThen, run_step]
    cases next.run.result <;> simp
  | .fork children join, k => by
    rw [bind, run_fork, run_fork]
    simp only [Outcome.andThen]
    cases (runAll children).result with
    | error e => simp
    | ok pieces =>
      simp only [run_bind (join pieces) k, Outcome.andThen]
      cases (join pieces).run.result <;> simp

/-! ## Values that cannot be written -/

mutual

/-- The same task, but it fails where it would write a value that cannot be written. -/
def checked : Task → Task
  | .done piece => .done piece
  | .fail error => .fail error
  | .step s next =>
    match s.fault? with
    | some fault => .fail (.noText (.unwritable fault))
    | none => .step s next.checked
  | .fork children join => .fork (checkedAll children) fun pieces => (join pieces).checked

/-- The same tasks, checked. -/
def checkedAll : List Task → List Task
  | [] => []
  | task :: rest => task.checked :: checkedAll rest

end

/-! ## Under any scheduler -/

/-- One move of a task: the step it takes if it takes one, the subtasks it calls off, and what it
has become. -/
inductive Advance : Task → Option Step → List Task → Task → Prop
  | step (s : Step) (next : Task) : Advance (.step s next) (some s) [] next
  /-- Some subtask moves. -/
  | child {before after off : List Task} {task task' : Task} {s : Option Step}
      {join : List Piece → Task} :
      Advance task s off task' →
        Advance (.fork (before ++ task :: after) join) s off
          (.fork (before ++ task' :: after) join)
  /-- All subtasks are done. -/
  | join (pieces : List Piece) (join : List Piece → Task) :
      Advance (.fork (pieces.map .done) join) none [] (join pieces)
  /-- The first subtask that is not done has failed; those after it are called off. -/
  | fail (pieces : List Piece) (error : ExpansionError) (after : List Task)
      (join : List Piece → Task) :
      Advance (.fork (pieces.map .done ++ .fail error :: after) join) none after (.fail error)

/-- What a task has forked into. -/
def subtasks : Task → List Task
  | .fork children _ => children
  | _ => []

/-! ## In turn -/

mutual

/-- The number of rounds after which a task ends, all its subtasks moving in turn: a pause takes a
round, and so do starting subtasks and noticing that they have ended. -/
def turns : Task → Nat
  | .done _ => 0
  | .fail _ => 0
  | .step s next => (if s = .pause then 1 else 0) + next.turns
  | .fork children join =>
    let continued := fun pieces => (join pieces).turns
    match (runAll children).result with
    | .error _ => 2 + turnsAll children
    | .ok pieces => 2 + turnsAll children + continued pieces

/-- The number of rounds until all tasks have ended, or all up to the first that fails. -/
def turnsAll : List Task → Nat
  | [] => 0
  | task :: rest =>
    match task.run.result with
    | .error _ => task.turns
    | .ok _ => max task.turns (turnsAll rest)

end

end Task

end UrlTemplate
