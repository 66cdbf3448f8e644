import UrlTemplate.Expansion.Schedule
import UrlTemplate.Proofs.Expansion.Outcome

/-!
# The moves of a task under any scheduler

What every move of a task keeps, at whatever depth it happens. `Advance.result_eq` is the invariant:
a move changes nothing about what the task ends with from left to right. `Advance.quiet` is its
companion for what is shown: in a task that succeeds nothing is called off, and a move only takes
its own step away from what is still to be shown. `Advance.work_lt` says that every move takes some
of `Task.work` away, so no schedule goes on for ever, and `exists_advance` finds a move in every
task that has not ended, so none gets stuck. `exists_advances` adds that the run from left to right,
by which the others are measured, is itself one of the schedules.
-/

namespace UrlTemplate

namespace Pool

/-- The first move shows what its step shows. -/
theorem shown_cons (s : Option Step) (steps : List (Option Step)) :
    shown (s :: steps) = Step.observations s.toList ++ shown steps := by
  unfold shown
  cases s with
  | none => rfl
  | some s => exact Step.observations_append [s] _

/-- Runs in a row show what they show in a row. -/
@[simp] theorem shown_append (steps steps' : List (Option Step)) :
    shown (steps ++ steps') = shown steps ++ shown steps' := by
  unfold shown
  rw [List.filterMap_append, Step.observations_append]

end Pool

namespace Task

/-! ### What one move keeps -/

/-- A move does not change what a task ends with when it is carried out from left to right. -/
theorem Advance.result_eq {t t' : Task} {s : Option Step} {off : List Task}
    (h : t.Advance s off t') : t'.run.result = t.run.result := by
  induction h with
  | step s next => rw [run_step]
  | @child before after off t t' s join _ ih =>
    rw [run_fork, run_fork]
    exact Outcome.result_andThen_congr (result_runAll_replace ih before after) _
  | join pieces join => rw [run_fork, Outcome.andThen_of_ok (result_runAll_done pieces)]
  | fail pieces e after join =>
    rw [run_fork, Outcome.andThen_of_error (result_runAll_fail pieces e after), run]

/-- If the task before a move shows what the move shows and then what the task after it shows, in
some order, so does a row of tasks around it. -/
theorem perm_flatMap_move {before after : List Task} {t t' : Task} {os : List Observation}
    (h : t.run.observations.Perm (os ++ t'.run.observations)) :
    ((before ++ t :: after).flatMap (·.run.observations)).Perm
      (os ++ (before ++ t' :: after).flatMap (·.run.observations)) := by
  rw [List.flatMap_append, List.flatMap_append, List.flatMap_cons, List.flatMap_cons]
  calc
    (before.flatMap (·.run.observations) ++
          (t.run.observations ++ after.flatMap (·.run.observations))).Perm
        (before.flatMap (·.run.observations) ++
          ((os ++ t'.run.observations) ++ after.flatMap (·.run.observations))) :=
      (h.append_right _).append_left _
    _ = before.flatMap (·.run.observations) ++
          (os ++ (t'.run.observations ++ after.flatMap (·.run.observations))) := by
      rw [List.append_assoc]
    List.Perm _ (os ++ (before.flatMap (·.run.observations) ++
          (t'.run.observations ++ after.flatMap (·.run.observations)))) :=
      List.perm_append_comm_assoc _ _ _

/-- In a task that succeeds a move calls nothing off, and what it shows and what is still to be
shown after it are together what was to be shown before it. -/
theorem Advance.quiet {t t' : Task} {s : Option Step} {off : List Task} (h : t.Advance s off t')
    {piece : Piece} (hok : t.run.result = .ok piece) :
    off = [] ∧ t.run.observations.Perm (Step.observations s.toList ++ t'.run.observations) := by
  induction h generalizing piece with
  | step s next =>
    rw [run_step]
    exact ⟨rfl, List.Perm.refl _⟩
  | @child before after off t t' s join hmove ih =>
    rw [run_fork] at hok
    cases hall : (runAll (before ++ t :: after)).result with
    | error e =>
      rw [Outcome.andThen_of_error hall] at hok
      exact absurd hok (by simp)
    | ok pieces =>
      have hall' : (runAll (before ++ t' :: after)).result = .ok pieces :=
        (result_runAll_replace hmove.result_eq before after).trans hall
      -- The moving subtask is one of those that succeed.
      have hmem : t.run.result ∈ pieces.map Except.ok := by
        rw [← runAll_eq_ok_iff.mp hall]
        exact List.mem_map_of_mem (by simp)
      obtain ⟨piece', -, hpiece'⟩ := List.mem_map.mp hmem
      obtain ⟨hoff, hperm⟩ := ih hpiece'.symm
      refine ⟨hoff, ?_⟩
      rw [run_fork, run_fork, Outcome.andThen_of_ok hall, Outcome.andThen_of_ok hall',
        observations_runAll_of_ok hall, observations_runAll_of_ok hall', ← List.append_assoc]
      exact (perm_flatMap_move hperm).append_right _
  | join pieces join =>
    have hdone := result_runAll_done pieces
    rw [run_fork, Outcome.andThen_of_ok hdone, observations_runAll_of_ok hdone]
    have hnone : (pieces.map Task.done).flatMap (·.run.observations) = [] := by
      rw [List.flatMap_map]
      exact List.flatMap_eq_nil_iff.mpr fun _ _ => by rw [run]
    rw [hnone]
    exact ⟨rfl, List.Perm.refl _⟩
  | fail pieces e after join =>
    rw [run_fork, Outcome.andThen_of_error (result_runAll_fail pieces e after)] at hok
    exact absurd hok (by simp)

/-! ### No schedule goes on for ever -/

mutual

/-- A bound on the moves of a task and of the subtasks that it may call off. -/
def work : Task → Nat
  | .done _ => 0
  | .fail _ => 0
  | .step _ next => 1 + next.work
  | .fork children join =>
    let continued := fun pieces => (join pieces).work
    1 + workAll children + match (runAll children).result with
      | .error _ => 0
      | .ok pieces => continued pieces

/-- The work of some tasks, and one move for each of them to stop. -/
def workAll : List Task → Nat
  | [] => 0
  | t :: ts => (t.work + 1) + workAll ts

end

/-- The subtasks of a fork: all are done, or the first that is not done has failed, or one can move.
-/
inductive Poised : List Task → Prop
  | done (pieces : List Piece) : Poised (pieces.map .done)
  | failed (pieces : List Piece) (e : ExpansionError) (after : List Task) :
      Poised (pieces.map .done ++ .fail e :: after)
  | moving {before after off : List Task} {t t' : Task} {s : Option Step} :
      t.Advance s off t' → Poised (before ++ t :: after)

/-- A subtask that is done in front changes nothing. -/
theorem Poised.cons_done {ts : List Task} (h : Poised ts) (piece : Piece) :
    Poised (.done piece :: ts) := by
  cases h with
  | done pieces => exact .done (piece :: pieces)
  | failed pieces e after => exact .failed (piece :: pieces) e after
  | @moving before after off t t' s hmove =>
    exact @Poised.moving (.done piece :: before) _ _ _ _ _ hmove

/-- A fork can move whatever its subtasks are about to do. -/
theorem Poised.exists_advance {children : List Task} (h : Poised children)
    (join : List Piece → Task) : ∃ s off t', (Task.fork children join).Advance s off t' := by
  cases h with
  | done pieces => exact ⟨_, _, _, .join pieces join⟩
  | failed pieces e after => exact ⟨_, _, _, .fail pieces e after join⟩
  | moving hmove => exact ⟨_, _, _, .child hmove⟩

mutual

/-- A task that has not ended can move. -/
theorem exists_advance : (t : Task) → t.answer? = none → ∃ s off t', t.Advance s off t'
  | .done _, h => by simp [answer?] at h
  | .fail _, h => by simp [answer?] at h
  | .step s next, _ => ⟨_, _, _, .step s next⟩
  | .fork children join, _ => (poised children).exists_advance join

/-- Subtasks are always about to do something. -/
theorem poised : (ts : List Task) → Poised ts
  | [] => .done []
  | .done piece :: ts => (poised ts).cons_done piece
  | .fail e :: ts => .failed [] e ts
  | .step s next :: ts => @Poised.moving [] ts _ _ _ _ (.step s next)
  | .fork children join :: ts => by
    obtain ⟨s, off, t', hmove⟩ := (poised children).exists_advance join
    exact @Poised.moving [] ts off _ t' s hmove

end

/-! ### From left to right is a schedule -/

/-- Moves of one task, with all that they call off. -/
inductive Advances : Task → List (Option Step) → List Task → Task → Prop
  | refl (t : Task) : Advances t [] [] t
  | move {t t' t'' : Task} {s : Option Step} {steps : List (Option Step)} {off off' : List Task} :
      t.Advance s off t' → Advances t' steps off' t'' → Advances t (s :: steps) (off ++ off') t''

/-- Moves in a row are moves. -/
theorem Advances.trans {t t' t'' : Task} {steps steps' : List (Option Step)} {off off' : List Task}
    (h : t.Advances steps off t') (h' : t'.Advances steps' off' t'') :
    t.Advances (steps ++ steps') (off ++ off') t'' := by
  induction h with
  | refl t => exact h'
  | move hmove _ ih =>
    rw [List.append_assoc]
    exact .move hmove (ih h')

/-- The moves of a subtask are moves of the task. -/
theorem Advances.child {t t' : Task} {steps : List (Option Step)} {off : List Task}
    (h : t.Advances steps off t') (before after : List Task) (join : List Piece → Task) :
    (Task.fork (before ++ t :: after) join).Advances steps off
      (.fork (before ++ t' :: after) join) := by
  induction h with
  | refl t => exact .refl _
  | move hmove _ ih => exact .move (.child hmove) ih

/-- The task that has ended with a result. -/
def ended : Except ExpansionError Piece → Task
  | .ok piece => .done piece
  | .error e => .fail e

mutual

/-- Carrying a task out from left to right is one way to move it. -/
theorem exists_advances : (t : Task) →
    ∃ steps off, t.Advances steps off (ended t.run.result) ∧ Pool.shown steps = t.run.observations
  | .done piece => ⟨[], [], by rw [run]; exact .refl _, by rw [run]; rfl⟩
  | .fail e => ⟨[], [], by rw [run]; exact .refl _, by rw [run]; rfl⟩
  | .step s next => by
    obtain ⟨steps, off, hmoves, hshown⟩ := exists_advances next
    refine ⟨some s :: steps, off, ?_, ?_⟩
    · rw [run_step]
      exact .move (.step s next) hmoves
    · rw [run_step, Pool.shown_cons, hshown]
      rfl
  | .fork children join => by
    obtain ⟨steps, off, hmoves, hshown⟩ := exists_advances_fork children [] join
    rw [run_fork]
    cases hall : (runAll children).result with
    | error e =>
      rw [hall] at hmoves
      rw [Outcome.andThen_of_error hall]
      exact ⟨steps, off, hmoves, hshown⟩
    | ok pieces =>
      rw [hall] at hmoves
      obtain ⟨steps', off', hmoves', hshown'⟩ := exists_advances (join pieces)
      rw [Outcome.andThen_of_ok hall]
      refine ⟨_, _, hmoves.trans (.move (.join _ join) hmoves'), ?_⟩
      rw [Pool.shown_append, Pool.shown_cons, hshown, hshown']
      rfl

/-- The subtasks of a fork can move one after the other, up to the first failure. -/
theorem exists_advances_fork : (ts : List Task) → (pieces : List Piece) →
    (join : List Piece → Task) →
    ∃ steps off,
      (Task.fork (pieces.map .done ++ ts) join).Advances steps off
        (match (runAll ts).result with
          | .ok others => .fork ((pieces ++ others).map .done) join
          | .error e => .fail e) ∧
      Pool.shown steps = (runAll ts).observations
  | [], pieces, join => by
    rw [runAll_nil]
    refine ⟨[], [], ?_, rfl⟩
    simp only [List.append_nil]
    exact .refl _
  | t :: ts, pieces, join => by
    obtain ⟨steps, off, hmoves, hshown⟩ := exists_advances t
    have hfirst := hmoves.child (pieces.map .done) ts join
    cases hres : t.run.result with
    | error e =>
      rw [hres] at hfirst
      rw [runAll_cons, Outcome.andThen_of_error hres]
      refine ⟨_, _, hfirst.trans (.move (.fail pieces e ts join) (.refl _)), ?_⟩
      rw [Pool.shown_append, Pool.shown_cons, hshown]
      exact List.append_nil _
    | ok piece =>
      obtain ⟨steps', off', hmoves', hshown'⟩ :=
        exists_advances_fork ts (pieces ++ [piece]) join
      rw [hres] at hfirst
      have hrow : (pieces ++ [piece]).map Task.done ++ ts =
          pieces.map .done ++ Task.done piece :: ts := by
        rw [List.map_append, List.append_assoc]
        rfl
      rw [hrow] at hmoves'
      refine ⟨steps ++ steps', off ++ off', ?_, ?_⟩
      · rw [result_runAll_cons, hres]
        cases hall : (runAll ts).result with
        | error e =>
          rw [hall] at hmoves'
          exact hfirst.trans hmoves'
        | ok others =>
          rw [hall] at hmoves'
          simp only [List.append_assoc, List.singleton_append] at hmoves'
          exact hfirst.trans hmoves'
      · rw [Pool.shown_append, hshown, hshown', runAll_cons, Outcome.andThen_of_ok hres]
        cases hall : (runAll ts).result with
        | error e => rw [Outcome.andThen_of_error hall]
        | ok others => rw [Outcome.andThen_of_ok hall, List.append_nil]

end

/-- A task that has answered shows nothing more, and its answer is what it ends with. -/
theorem run_of_answer {t : Task} {answer : Except ExpansionError String}
    (h : t.answer? = some answer) :
    t.run.observations = [] ∧
      t.run.result.map (fun piece => String.ofList piece.text) = answer := by
  cases t with
  | done piece =>
    rw [answer?, Option.some.injEq] at h
    rw [run]
    exact ⟨rfl, h⟩
  | fail e =>
    rw [answer?, Option.some.injEq] at h
    rw [run]
    exact ⟨rfl, h⟩
  | step s next => simp [answer?] at h
  | fork children join => simp [answer?] at h

/-- A task that has answered with a text ends with a piece. -/
theorem ok_of_answer {t : Task} {text : String} (h : t.answer? = some (.ok text)) :
    ∃ piece, t.run.result = .ok piece := by
  have hanswer := (run_of_answer h).2
  cases hres : t.run.result with
  | ok piece => exact ⟨piece, rfl⟩
  | error e =>
    rw [hres] at hanswer
    cases hanswer

end Task

end UrlTemplate
