import UrlTemplate.Expansion.Task

/-!
# Outcomes of tasks in a row

`Task.runAll` carries tasks out one after the other. It succeeds exactly if every task does
(`runAll_eq_ok_iff`), and then it shows what they show one after the other
(`observations_runAll_of_ok`); what it ends with depends on what the tasks end with alone
(`result_runAll_congr`). `runAll_cons` states the recursion through `Outcome.andThen`, the way in
which `run_bind` and `run_fork` state theirs, so that a property of outcomes that `andThen` keeps is
proved for forks by induction on the list of subtasks. `Outcome.keep` leaves some of what an outcome
shows out.
-/

namespace UrlTemplate

/-- Steps in a row show what the first ones show and then what the others show. -/
@[simp] theorem Step.observations_append (as bs : List Step) :
    observations (as ++ bs) = observations as ++ observations bs := by
  unfold observations
  exact List.filterMap_append

/-- Steps that only show something show just that. -/
@[simp] theorem Step.observations_map_observe (os : List Observation) :
    observations (os.map .observe) = os := by
  induction os with
  | nil => rfl
  | cons o os ih =>
    have hcons : observations ((o :: os).map .observe) = o :: observations (os.map .observe) := rfl
    rw [hcons, ih]

/-- Pauses show nothing. -/
@[simp] theorem Step.observations_pauses (n : Nat) :
    observations (List.replicate n .pause) = [] := by
  unfold observations
  rw [List.filterMap_replicate_of_none rfl]

namespace Outcome

variable {α β : Type}

/-- After a success the outcome is what follows, behind what was shown before. -/
theorem andThen_of_ok {first : Outcome α} {a : α} (h : first.result = .ok a)
    (next : α → Outcome β) :
    first.andThen next = ⟨first.observations ++ (next a).observations, (next a).result⟩ := by
  simp only [andThen, h]

/-- A failure ends the outcome. -/
theorem andThen_of_error {first : Outcome α} {e : ExpansionError} (h : first.result = .error e)
    (next : α → Outcome β) : first.andThen next = ⟨first.observations, .error e⟩ := by
  simp only [andThen, h]

/-- What an outcome ends with depends on what its first part ends with, not on what that shows. -/
theorem result_andThen_congr {first second : Outcome α} (h : first.result = second.result)
    (next : α → Outcome β) : (first.andThen next).result = (second.andThen next).result := by
  cases hs : second.result with
  | ok a => rw [andThen_of_ok hs, andThen_of_ok (h.trans hs)]
  | error e => rw [andThen_of_error hs, andThen_of_error (h.trans hs)]

/-- What an outcome ends with is what its parts end with, one after the other. -/
theorem result_andThen (first : Outcome α) (next : α → Outcome β) :
    (first.andThen next).result = first.result >>= fun a => (next a).result := by
  cases h : first.result with
  | ok a =>
    rw [andThen_of_ok h]
    rfl
  | error e =>
    rw [andThen_of_error h]
    rfl

/-- Going on depends on what follows the success that there is, if there is one. -/
theorem andThen_congr {first : Outcome α} {next next' : α → Outcome β}
    (h : ∀ a, first.result = .ok a → next a = next' a) :
    first.andThen next = first.andThen next' := by
  cases hr : first.result with
  | ok a => rw [andThen_of_ok hr, andThen_of_ok hr, h a hr]
  | error e => rw [andThen_of_error hr, andThen_of_error hr]

/-- Going on twice is going on with what goes on. -/
theorem andThen_assoc {γ : Type} (first : Outcome α) (next : α → Outcome β)
    (last : β → Outcome γ) :
    (first.andThen next).andThen last = first.andThen fun a => (next a).andThen last := by
  cases h : first.result with
  | error e => rw [andThen_of_error h, andThen_of_error h, andThen_of_error rfl]
  | ok a =>
    rw [andThen_of_ok h, andThen_of_ok h]
    cases hnext : (next a).result with
    | error e => rw [andThen_of_error hnext, andThen_of_error rfl]
    | ok b => rw [andThen_of_ok hnext, andThen_of_ok rfl, List.append_assoc]

/-- A success that shows nothing leaves what follows as it is. -/
theorem ok_andThen (a : α) (next : α → Outcome β) :
    andThen ⟨[], .ok a⟩ next = next a := by
  rw [andThen_of_ok rfl, List.nil_append]

/-- What is made of a success shows nothing. -/
theorem observations_andThen_ok (first : Outcome α) (f : α → β) :
    (first.andThen fun a => ⟨[], .ok (f a)⟩).observations = first.observations := by
  cases h : first.result with
  | ok a => rw [andThen_of_ok h, List.append_nil]
  | error e => rw [andThen_of_error h]

/-- What comes first is shown first, whatever follows. -/
theorem exists_observations_andThen (first : Outcome α) (next : α → Outcome β) :
    ∃ later, (first.andThen next).observations = first.observations ++ later := by
  cases h : first.result with
  | ok a => exact ⟨(next a).observations, by rw [andThen_of_ok h]⟩
  | error e => exact ⟨[], by rw [andThen_of_error h, List.append_nil]⟩

/-- An outcome of which only some observations are kept. -/
def keep (p : Observation → Bool) (outcome : Outcome α) : Outcome α :=
  ⟨outcome.observations.filter p, outcome.result⟩

/-- What is kept of two parts is what is kept of each. -/
theorem keep_andThen (p : Observation → Bool) (first : Outcome α) (next : α → Outcome β) :
    (first.andThen next).keep p = (first.keep p).andThen fun a => (next a).keep p := by
  rcases h : first.result with e | a
  · have hkept : (first.keep p).result = .error e := h
    rw [andThen_of_error h, andThen_of_error hkept]
    rfl
  · have hkept : (first.keep p).result = .ok a := h
    rw [andThen_of_ok h, andThen_of_ok hkept]
    exact congrArg (Outcome.mk · _) (List.filter_append _ _)

end Outcome

namespace Task

/-! ### The run of a list of tasks -/

/-- No tasks show nothing. -/
@[simp] theorem runAll_nil : runAll [] = ⟨[], .ok []⟩ := by
  simp only [runAll]

/-- The first task runs first; after its success the others do. -/
theorem runAll_cons (t : Task) (ts : List Task) :
    runAll (t :: ts) =
      t.run.andThen fun piece => (runAll ts).andThen fun pieces => ⟨[], .ok (piece :: pieces)⟩ := by
  rw [runAll]
  cases h : t.run.result with
  | error e => rw [Outcome.andThen_of_error h]
  | ok piece =>
    rw [Outcome.andThen_of_ok h]
    cases hs : (runAll ts).result with
    | error e =>
      rw [Outcome.andThen_of_error hs]
      simp only [hs]
      rfl
    | ok pieces =>
      rw [Outcome.andThen_of_ok hs, List.append_nil]
      simp only [hs]
      rfl

/-- Tasks in two rows run one row after the other. -/
theorem runAll_append (ts us : List Task) :
    runAll (ts ++ us) =
      (runAll ts).andThen fun ps => (runAll us).andThen fun qs => ⟨[], .ok (ps ++ qs)⟩ := by
  induction ts with
  | nil =>
    rw [List.nil_append, runAll_nil, Outcome.ok_andThen]
    simp only [List.nil_append]
    cases h : (runAll us).result with
    | ok qs =>
      rw [Outcome.andThen_of_ok h, List.append_nil, ← h]
    | error e => rw [Outcome.andThen_of_error h, ← h]
  | cons t ts ih =>
    rw [List.cons_append, runAll_cons, runAll_cons, ih]
    simp only [Outcome.andThen_assoc, Outcome.ok_andThen, List.cons_append]

/-- What a list of tasks ends with, from what the first one and the others end with. -/
theorem result_runAll_cons (t : Task) (ts : List Task) :
    (runAll (t :: ts)).result =
      match t.run.result with
      | .error e => .error e
      | .ok piece => match (runAll ts).result with
        | .error e => .error e
        | .ok pieces => .ok (piece :: pieces) := by
  rw [runAll_cons]
  cases h : t.run.result with
  | error e => rw [Outcome.andThen_of_error h]
  | ok piece =>
    rw [Outcome.andThen_of_ok h]
    cases hs : (runAll ts).result with
    | error e => rw [Outcome.andThen_of_error hs]
    | ok pieces => rw [Outcome.andThen_of_ok hs]

/-- What tasks in a row end with depends on what each of them ends with, and on nothing else. -/
theorem result_runAll_congr {ts us : List Task}
    (h : ts.map (·.run.result) = us.map (·.run.result)) :
    (runAll ts).result = (runAll us).result := by
  induction ts generalizing us with
  | nil => rw [List.map_eq_nil_iff.mp (List.map_nil.symm.trans h).symm]
  | cons t ts ih =>
    obtain ⟨u, us, rfl⟩ : ∃ u us', us = u :: us' := by
      cases us with
      | nil => simp at h
      | cons u us => exact ⟨u, us, rfl⟩
    rw [List.map_cons, List.map_cons, List.cons.injEq] at h
    rw [result_runAll_cons, result_runAll_cons, h.1, ih h.2]

/-- A task in a row may be replaced by one that ends with the same. -/
theorem result_runAll_replace {t t' : Task} (h : t'.run.result = t.run.result)
    (before after : List Task) :
    (runAll (before ++ t' :: after)).result = (runAll (before ++ t :: after)).result := by
  apply result_runAll_congr
  rw [List.map_append, List.map_append, List.map_cons, List.map_cons, h]

/-- What is kept of the pieces of tasks in a row, from what is kept of the first one's and of the
others'. -/
theorem map_result_runAll_cons {α : Type} (f : Piece → α) (t : Task) (ts : List Task) :
    (runAll (t :: ts)).result.map (List.map f) =
      match t.run.result.map f with
      | .error e => .error e
      | .ok a => match (runAll ts).result.map (List.map f) with
        | .error e => .error e
        | .ok as => .ok (a :: as) := by
  rw [result_runAll_cons]
  cases t.run.result with
  | error e => rfl
  | ok piece => cases (runAll ts).result <;> rfl

/-- What is kept of the pieces of tasks in a row depends only on what is kept of each of them. -/
theorem map_result_runAll_congr {α β : Type} (f : Piece → α) {xs : List β} {task task' : β → Task}
    (h : ∀ b ∈ xs, (task b).run.result.map f = (task' b).run.result.map f) :
    (runAll (xs.map task)).result.map (List.map f) =
      (runAll (xs.map task')).result.map (List.map f) := by
  induction xs with
  | nil => rfl
  | cons b xs ih =>
    have hrest := ih fun c hc => h c (List.mem_cons_of_mem _ hc)
    rw [List.map_cons, List.map_cons, map_result_runAll_cons, map_result_runAll_cons,
      h b List.mem_cons_self, hrest]

/-- Tasks in a row succeed exactly if each of them does. -/
theorem runAll_eq_ok_iff {ts : List Task} {pieces : List Piece} :
    (runAll ts).result = .ok pieces ↔ ts.map (·.run.result) = pieces.map .ok := by
  induction ts generalizing pieces with
  | nil =>
    rw [runAll_nil, List.map_nil, Except.ok.injEq]
    constructor
    · rintro rfl
      rfl
    · intro h
      exact (List.map_eq_nil_iff.mp h.symm).symm
  | cons t ts ih =>
    rw [result_runAll_cons, List.map_cons]
    cases pieces with
    | nil =>
      cases t.run.result with
      | error e => simp
      | ok piece => cases (runAll ts).result <;> simp
    | cons piece pieces =>
      rw [List.map_cons, List.cons.injEq, ← ih]
      cases t.run.result with
      | error e => simp
      | ok piece' => cases (runAll ts).result <;> simp

/-- What tasks in a row end with is what they end with one after the other. -/
theorem result_runAll_map {α : Type} {xs : List α} {task : α → Task}
    {result : α → Except ExpansionError Piece} (h : ∀ a ∈ xs, (task a).run.result = result a) :
    (runAll (xs.map task)).result = xs.mapM result := by
  induction xs with
  | nil =>
    rw [List.map_nil, runAll_nil, List.mapM_nil]
    rfl
  | cons a xs ih =>
    have hrest := ih fun b hb => h b (List.mem_cons_of_mem _ hb)
    rw [List.map_cons, runAll_cons, Outcome.result_andThen, List.mapM_cons, h a List.mem_cons_self,
      ← hrest]
    simp only [Outcome.result_andThen]
    rfl

/-- Tasks in a row that succeed give a piece each. -/
theorem length_of_runAll_ok {ts : List Task} {pieces : List Piece}
    (h : (runAll ts).result = .ok pieces) : pieces.length = ts.length := by
  have hlength := congrArg List.length (runAll_eq_ok_iff.mp h)
  rw [List.length_map, List.length_map] at hlength
  exact hlength.symm

/-- Tasks in a row that succeed show what each of them shows. -/
theorem observations_runAll_of_ok {ts : List Task} {pieces : List Piece}
    (h : (runAll ts).result = .ok pieces) :
    (runAll ts).observations = ts.flatMap (·.run.observations) := by
  induction ts generalizing pieces with
  | nil => rw [runAll_nil, List.flatMap_nil]
  | cons t ts ih =>
    rw [runAll_eq_ok_iff] at h
    obtain ⟨piece, pieces', rfl⟩ : ∃ piece pieces', pieces = piece :: pieces' := by
      cases pieces with
      | nil => simp at h
      | cons piece pieces' => exact ⟨piece, pieces', rfl⟩
    obtain ⟨hhead, htail⟩ := List.cons.inj h
    have hrest : (runAll ts).result = .ok pieces' := runAll_eq_ok_iff.mpr htail
    rw [runAll_cons, Outcome.andThen_of_ok hhead, Outcome.andThen_of_ok hrest, List.append_nil,
      ih hrest, List.flatMap_cons]

/-- Tasks that are done give their pieces. -/
theorem result_runAll_done (pieces : List Piece) :
    (runAll (pieces.map .done)).result = .ok pieces := by
  rw [runAll_eq_ok_iff, List.map_map]
  rfl

/-- The first failure after successes is the failure of them all. -/
theorem result_runAll_fail (pieces : List Piece) (e : ExpansionError) (after : List Task) :
    (runAll (pieces.map .done ++ .fail e :: after)).result = .error e := by
  induction pieces with
  | nil => rw [List.map_nil, List.nil_append, result_runAll_cons, run]
  | cons piece pieces ih => rw [List.map_cons, List.cons_append, result_runAll_cons, ih, run]

/-- What is kept of tasks in a row is what is kept of each of them. -/
theorem keep_runAll {α : Type} (p : Observation → Bool) {xs : List α} {task task' : α → Task}
    (h : ∀ a ∈ xs, (task' a).run = (task a).run.keep p) :
    runAll (xs.map task') = (runAll (xs.map task)).keep p := by
  induction xs with
  | nil =>
    rw [List.map_nil, List.map_nil, runAll_nil]
    rfl
  | cons a xs ih =>
    have hrest := ih fun b hb => h b (List.mem_cons_of_mem _ hb)
    rw [List.map_cons, List.map_cons, runAll_cons, runAll_cons, h a List.mem_cons_self, hrest]
    simp only [Outcome.keep_andThen]
    rfl

end Task

end UrlTemplate
