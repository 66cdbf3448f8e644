import UrlTemplate.Proofs.Expansion.Run
import UrlTemplate.Proofs.Filter.Chain
import UrlTemplate.Proofs.Filter.Hash

/-!
# What becomes of each segment of a chain

Handlers that answer values with values, or fail, leave a segment one of four fates (`Fate`): it
does not parse, it names no filter, its filter fails, or its filter is applied. `Registry.Ends` says
which fate a segment has on a value and what value goes on; there is always one and only one
(`exists_ends`, `Ends.unique`). The filter `hash` is always applied: what keeps it from hashing is a
`HashProblem` that it reports itself, and its answer is then the empty text
(`Ends.of_hash`).

A chain is a `Registry.Course`, one fate after the other. **Theorem** (`applyFilters_course`): a
chain shows the traces of the fates and nothing else, ends with a value, is made longer by what a
second chain makes of that value, and ends with the same value if all segments are taken out whose
filter was not applied.
-/

namespace UrlTemplate

open Template

/-! ### Hashing -/

/-- What the filter `hash` shows of its problem. -/
def HashProblem.trace (d : Diagnostics) (problem : HashProblem) : List Observation :=
  d.userError problem.event problem.details

/-! ### What a handler makes of a value -/

namespace Handler

/-- A handler answers with a value. The filter `hash` answers even where it cannot hash. -/
inductive Answers (context : FilterContext) (v : Value) (args : List String) :
    Handler → Option HashProblem → Value → Prop
  | sync {apply : Item → List String → Except FilterError Item} {w : Value}
      (h : apply (.ready v) args = .ok (.ready w)) : Answers context v args (.sync apply) none w
  | async {apply : Item → List String → Reply} {w : Value}
      (h : (apply (.ready v) args).outcome = .ok (.ready w)) :
      Answers context v args (.async apply) none w
  | hashed {hash : String} (h : context.HashesTo (.ready v) (.ok hash)) :
      Answers context v args .hash none (.str hash)
  | unhashed {problem : HashProblem} (h : context.HashesTo (.ready v) (.error problem)) :
      Answers context v args .hash (some problem) (.str "")

/-- A handler refuses a value. The filter `hash` never does. -/
inductive Refuses (v : Value) (args : List String) : Handler → FilterError → Prop
  | sync {apply : Item → List String → Except FilterError Item} {e : FilterError}
      (h : apply (.ready v) args = .error e) : Refuses v args (.sync apply) e
  | async {apply : Item → List String → Reply} {e : FilterError}
      (h : (apply (.ready v) args).outcome = .error e) : Refuses v args (.async apply) e

variable {context : FilterContext} {v : Value} {args : List String} {handler : Handler}

/-- A handler that answers values with values, or fails, answers a value or refuses it. -/
theorem ReturnsValues.answers_or_refuses (hh : handler.ReturnsValues) (context : FilterContext)
    (v : Value) (args : List String) :
    (∃ problem w, handler.Answers context v args problem w) ∨ ∃ e, handler.Refuses v args e := by
  cases handler with
  | sync apply =>
    rcases h : apply (.ready v) args with e | item
    · exact .inr ⟨e, .sync h⟩
    · obtain ⟨w, rfl⟩ := hh v args item h
      exact .inl ⟨none, w, .sync h⟩
  | async apply =>
    rcases h : (apply (.ready v) args).outcome with e | item
    · exact .inr ⟨e, .async h⟩
    · obtain ⟨w, rfl⟩ := hh v args item h
      exact .inl ⟨none, w, .async h⟩
  | hash =>
    obtain ⟨problem | hash, h⟩ := context.exists_hashesTo (.ready v)
    · exact .inl ⟨some problem, .str "", .unhashed h⟩
    · exact .inl ⟨none, .str hash, .hashed h⟩

/-- A handler does not answer what it refuses. -/
theorem Answers.not_refuses {problem : Option HashProblem} {w : Value}
    (h : handler.Answers context v args problem w) (e : FilterError) :
    ¬ handler.Refuses v args e := by
  intro h'
  cases h with
  | sync h => cases h' with | sync h' => rw [h] at h'; cases h'
  | async h => cases h' with | async h' => rw [h] at h'; cases h'
  | hashed h => cases h'
  | unhashed h => cases h'

/-- A handler has one answer. -/
theorem Answers.unique {problem problem' : Option HashProblem} {w w' : Value}
    (h : handler.Answers context v args problem w)
    (h' : handler.Answers context v args problem' w') : problem = problem' ∧ w = w' := by
  cases h with
  | sync h => cases h' with | sync h' => simpa using h.symm.trans h'
  | async h => cases h' with | async h' => simpa using h.symm.trans h'
  | hashed h =>
    cases h' with
    | hashed h' => simpa using h.unique h'
    | unhashed h' => simpa using h.unique h'
  | unhashed h =>
    cases h' with
    | hashed h' => simpa using h.unique h'
    | unhashed h' => simpa using h.unique h'

/-- A handler refuses a value for one reason. -/
theorem Refuses.unique {e e' : FilterError} (h : handler.Refuses v args e)
    (h' : handler.Refuses v args e') : e = e' := by
  cases h with
  | sync h => cases h' with | sync h' => simpa using h.symm.trans h'
  | async h => cases h' with | async h' => simpa using h.symm.trans h'

/-- A handler that answers shows the problem that it has overcome, and nothing else. -/
theorem Answers.run {problem : Option HashProblem} {w : Value}
    (h : handler.Answers context v args problem w) :
    (handler.run context (.ready v) args).outcome = .ok (.ready w) ∧
      Step.observations (handler.run context (.ready v) args).steps =
        problem.elim [] (HashProblem.trace context.diagnostics) := by
  cases h with
  | sync h => exact ⟨h, rfl⟩
  | async h => exact ⟨h, Step.observations_pauses _⟩
  | hashed h =>
    unfold Handler.run
    simp only [h.hash_eq]
    exact ⟨trivial, rfl⟩
  | unhashed h =>
    unfold Handler.run
    simp only [h.hash_eq]
    exact ⟨trivial, Step.observations_map_observe _⟩

/-- A handler that refuses shows nothing. -/
theorem Refuses.run {e : FilterError} (h : handler.Refuses v args e) (context : FilterContext) :
    (handler.run context (.ready v) args).outcome = .error e ∧
      Step.observations (handler.run context (.ready v) args).steps = [] := by
  cases h with
  | sync h => exact ⟨h, rfl⟩
  | async h => exact ⟨h, Step.observations_pauses _⟩

end Handler

/-! ### Fates -/

/-- What becomes of a segment. -/
inductive Fate
  /-- It does not parse. -/
  | malformed (segment : String) (error : PlaceholderError)
  /-- It names no filter. -/
  | unknown (filter : String)
  /-- Its filter failed. -/
  | failed (filter : String) (error : FilterError)
  /-- Its filter was applied. The problem is one that `hash` has overcome. -/
  | applied (filter : String) (problem : Option HashProblem)
deriving DecidableEq, Repr

namespace Fate

/-- What a segment shows: one problem, or one application that failed with its problem, or one
application that succeeded. -/
def trace (d : Diagnostics) : Fate → List Observation
  | .malformed segment error =>
    d.userError "invalid_filter" [("segment", .str segment), ("error", .str error.message)]
  | .unknown filter => d.userError "invalid_filter_name" [("filter", .str filter)]
  | .failed filter error => .count (.filter filter false) ::
      d.userError "filter_failed" [("filter", .str filter), ("error", .str error.message)]
  | .applied filter problem =>
    problem.elim [] (HashProblem.trace d) ++ [.count (.filter filter true)]

/-- Whether a segment ends as a successful application. -/
def isApplied : Fate → Bool
  | .applied _ _ => true
  | _ => false

end Fate

namespace Registry

variable {r : Registry}

/-- A segment has a fate on a value, and a value goes on: the one that it received, unless its
filter was applied. -/
inductive Ends (r : Registry) (v : Value) (segment : String) : Fate → Value → Prop
  | malformed {e : PlaceholderError} (h : FilterCall.parse segment = .error e) :
      Ends r v segment (.malformed segment e) v
  | unknown {call : FilterCall} (h : FilterCall.parse segment = .ok call)
      (hget : r.get? call.name = none) : Ends r v segment (.unknown call.name) v
  | failed {call : FilterCall} {handler : Handler} {e : FilterError}
      (h : FilterCall.parse segment = .ok call) (hget : r.get? call.name = some handler)
      (hrefuses : handler.Refuses v call.args e) : Ends r v segment (.failed call.name e) v
  | applied {call : FilterCall} {handler : Handler} {problem : Option HashProblem} {w : Value}
      (h : FilterCall.parse segment = .ok call) (hget : r.get? call.name = some handler)
      (hanswers : handler.Answers r.context v call.args problem w) :
      Ends r v segment (.applied call.name problem) w

/-- Every segment has a fate. -/
theorem ReturnsValues.exists_ends (hr : r.ReturnsValues) (v : Value) (segment : String) :
    ∃ fate w, r.Ends v segment fate w := by
  rcases hparse : FilterCall.parse segment with e | call
  · exact ⟨_, v, .malformed hparse⟩
  · rcases hget : r.get? call.name with _ | handler
    · exact ⟨_, v, .unknown hparse hget⟩
    · rcases (hr.get? hget).answers_or_refuses r.context v call.args with ⟨problem, w, h⟩ | ⟨e, h⟩
      · exact ⟨_, w, .applied hparse hget h⟩
      · exact ⟨_, v, .failed hparse hget h⟩

/-- No segment has two fates. -/
theorem Ends.unique {v w w' : Value} {segment : String} {fate fate' : Fate}
    (h : r.Ends v segment fate w) (h' : r.Ends v segment fate' w') : fate = fate' ∧ w = w' := by
  rcases h with h | ⟨h, hget⟩ | ⟨h, hget, hrefuses⟩ | ⟨h, hget, hanswers⟩ <;>
    rcases h' with h' | ⟨h', hget'⟩ | ⟨h', hget', hrefuses'⟩ | ⟨h', hget', hanswers'⟩ <;>
    cases h.symm.trans h' <;> try cases hget.symm.trans hget'
  · exact ⟨rfl, rfl⟩
  · exact ⟨rfl, rfl⟩
  · exact ⟨by rw [hrefuses.unique hrefuses'], rfl⟩
  · exact absurd hrefuses (hanswers'.not_refuses _)
  · exact absurd hrefuses' (hanswers.not_refuses _)
  · obtain ⟨rfl, rfl⟩ := hanswers.unique hanswers'
    exact ⟨rfl, rfl⟩

/-- A segment whose filter was not applied hands on the value that it received. -/
theorem Ends.eq_of_not_applied {v w : Value} {segment : String} {fate : Fate}
    (h : r.Ends v segment fate w) (hfate : fate.isApplied = false) : w = v := by
  cases h with
  | applied h hget hanswers => cases hfate
  | _ => rfl

/-- A segment shows the trace of its fate, and its value goes on. -/
theorem Ends.applySegment (hmetrics : r.context.recordMetrics = true) {v w : Value}
    {segment : String} {fate : Fate} (h : r.Ends v segment fate w) :
    Step.observations (r.applySegment (.ready v) segment).1 = fate.trace r.context.diagnostics ∧
      (r.applySegment (.ready v) segment).2 = .ready w := by
  have hcounted (name : String) (ok : Bool) :
      Step.observations (r.countApplication name ok) = [.count (.filter name ok)] := by
    unfold countApplication
    rw [hmetrics]
    rfl
  cases h with
  | malformed h =>
    rw [applySegment_of_malformed h]
    exact ⟨observations_report _ _ _, rfl⟩
  | unknown h hget =>
    rw [applySegment_of_unknown h hget]
    exact ⟨observations_report _ _ _, rfl⟩
  | @failed call handler e h hget hrefuses =>
    obtain ⟨houtcome, hsteps⟩ := hrefuses.run r.context
    rw [applySegment_of_handler h hget, applyHandler_of_error houtcome]
    refine ⟨?_, left_run_ready handler r.context v call.args⟩
    simp only [Step.observations_append, hsteps, hcounted, observations_report]
    rfl
  | applied h hget hanswers =>
    obtain ⟨houtcome, hsteps⟩ := hanswers.run
    rw [applySegment_of_handler h hget, applyHandler_of_ok houtcome]
    refine ⟨?_, rfl⟩
    simp only [Step.observations_append, hsteps, hcounted]
    rfl

/-- The filter `hash` is always applied: it hashes, or it answers with the empty text. -/
theorem Ends.of_hash (hhash : r.get? "hash" = some .hash) {v w : Value} {segment : String}
    {args : List String} {fate : Fate} (hparse : FilterCall.parse segment = .ok ⟨"hash", args⟩)
    (h : r.Ends v segment fate w) :
    (∃ hash, r.context.HashesTo (.ready v) (.ok hash) ∧
      fate = .applied "hash" none ∧ w = .str hash) ∨
    ∃ problem, r.context.HashesTo (.ready v) (.error problem) ∧
      fate = .applied "hash" (some problem) ∧ w = .str "" := by
  rcases h with h | ⟨h, hget⟩ | ⟨h, hget, hrefuses⟩ | ⟨h, hget, hanswers⟩ <;>
    cases hparse.symm.trans h <;> cases hhash.symm.trans hget
  · cases hrefuses
  · cases hanswers with
    | @hashed hash h => exact .inl ⟨hash, h, rfl, rfl⟩
    | @unhashed problem h => exact .inr ⟨problem, h, rfl, rfl⟩

/-! ### Courses -/

/-- A chain takes a value through its segments, one fate after the other, to its final value. -/
inductive Course (r : Registry) : Value → List (String × Fate) → Value → Prop
  | nil (v : Value) : Course r v [] v
  | cons {v w u : Value} {segment : String} {fate : Fate} {rest : List (String × Fate)}
      (h : r.Ends v segment fate w) (hrest : Course r w rest u) :
      Course r v ((segment, fate) :: rest) u

/-- Every chain has a course. -/
theorem ReturnsValues.exists_course (hr : r.ReturnsValues) (v : Value) (segments : List String) :
    ∃ course w, course.map Prod.fst = segments ∧ r.Course v course w := by
  induction segments generalizing v with
  | nil => exact ⟨[], v, rfl, .nil v⟩
  | cons segment rest ih =>
    obtain ⟨fate, w, hends⟩ := hr.exists_ends v segment
    obtain ⟨course, u, hsegments, hcourse⟩ := ih w
    exact ⟨(segment, fate) :: course, u, by rw [List.map_cons, hsegments], .cons hends hcourse⟩

/-- No chain has two courses. -/
theorem Course.unique {v w w' : Value} {course course' : List (String × Fate)}
    (h : r.Course v course w) (h' : r.Course v course' w')
    (hsegments : course.map Prod.fst = course'.map Prod.fst) : course = course' ∧ w = w' := by
  induction h generalizing course' with
  | nil v =>
    obtain rfl := List.map_eq_nil_iff.mp hsegments.symm
    cases h'
    exact ⟨rfl, rfl⟩
  | cons hends hrest ih =>
    cases h' with
    | nil v => cases hsegments
    | cons hends' hrest' =>
      obtain ⟨rfl, htail⟩ := List.cons.inj hsegments
      obtain ⟨rfl, rfl⟩ := hends.unique hends'
      obtain ⟨rfl, rfl⟩ := ih hrest' htail
      exact ⟨rfl, rfl⟩

/-- A chain shows the traces of its fates one after the other, and ends with its final value. -/
theorem Course.applyFilters (hmetrics : r.context.recordMetrics = true) {v w : Value}
    {course : List (String × Fate)} (h : r.Course v course w) :
    Step.observations (r.applyFilters (.ready v) (course.map Prod.fst)).1 =
        course.flatMap (fun turn => turn.2.trace r.context.diagnostics) ∧
      (r.applyFilters (.ready v) (course.map Prod.fst)).2 = .ready w := by
  induction h with
  | nil v => exact ⟨rfl, rfl⟩
  | cons hends hrest ih =>
    obtain ⟨htrace, hnext⟩ := hends.applySegment hmetrics
    rw [List.map_cons, applyFilters_cons, hnext, Step.observations_append, htrace, ih.1,
      List.flatMap_cons]
    exact ⟨rfl, ih.2⟩

/-- Without the segments whose filters were not applied, a course ends with the same value. -/
theorem Course.filter_isApplied {v w : Value} {course : List (String × Fate)}
    (h : r.Course v course w) : r.Course v (course.filter (·.2.isApplied)) w := by
  induction h with
  | nil v => exact .nil v
  | @cons v w u segment fate rest hends hrest ih =>
    rcases hfate : fate.isApplied with _ | _
    · rw [List.filter_cons_of_neg (by simp [hfate]), ← hends.eq_of_not_applied hfate]
      exact ih
    · rw [List.filter_cons_of_pos (by simp [hfate])]
      exact .cons hends ih

/-- **A chain never fails, and each of its segments has one fate.** The chain shows the traces of
the fates and ends with the value that the fates lead to; a second chain behind it goes on from that
value; and the segments whose filters were not applied can be left out. A segment that hashes is
always applied, and empties the value if it cannot hash it. -/
theorem applyFilters_course (hmetrics : r.context.recordMetrics = true) (hr : r.ReturnsValues)
    (hhash : r.get? "hash" = some .hash) (v : Value) (segments : List String) :
    (∃ course w, course.map Prod.fst = segments ∧ r.Course v course w ∧
      (∀ course' w', course'.map Prod.fst = segments → r.Course v course' w' →
        course' = course ∧ w' = w) ∧
      (r.applyFilters (.ready v) segments).2 = .ready w ∧
      Step.observations (r.applyFilters (.ready v) segments).1 =
        course.flatMap (fun turn => turn.2.trace r.context.diagnostics) ∧
      (r.applyFilters (.ready v) ((course.filter (·.2.isApplied)).map Prod.fst)).2 = .ready w ∧
      ∀ more,
        let whole := r.applyFilters (.ready v) (segments ++ more)
        let first := r.applyFilters (.ready v) segments
        let second := r.applyFilters (.ready w) more
        whole.2 = second.2 ∧
        Observation.logs (Step.observations whole.1) =
          Observation.logs (Step.observations first.1) ++
            Observation.logs (Step.observations second.1) ∧
        ∀ counter, Observation.tally (Step.observations whole.1) counter =
          Observation.tally (Step.observations first.1) counter +
            Observation.tally (Step.observations second.1) counter) ∧
    ∀ segment args, FilterCall.parse segment = .ok ⟨"hash", args⟩ →
      ∀ u fate w, r.Ends u segment fate w →
        (∃ hash, r.context.HashesTo (.ready u) (.ok hash) ∧
          fate = .applied "hash" none ∧ w = .str hash) ∨
        ∃ problem, r.context.HashesTo (.ready u) (.error problem) ∧
          fate = .applied "hash" (some problem) ∧ w = .str "" := by
  refine ⟨?_, fun segment args hparse u fate w hends => hends.of_hash hhash hparse⟩
  obtain ⟨course, w, rfl, hcourse⟩ := hr.exists_course v segments
  obtain ⟨htrace, hfinal⟩ := hcourse.applyFilters hmetrics
  refine ⟨course, w, rfl, hcourse, ?_, hfinal, htrace,
    (hcourse.filter_isApplied.applyFilters hmetrics).2, ?_⟩
  · intro course' w' hsegments hcourse'
    exact hcourse'.unique hcourse hsegments
  · intro more whole first second
    have hwhole : whole = (first.1 ++ second.1, second.2) := by
      show r.applyFilters (.ready v) (course.map Prod.fst ++ more) = _
      rw [applyFilters_append, hfinal]
    rw [hwhole]
    refine ⟨rfl, ?_, ?_⟩
    · rw [Step.observations_append, Observation.logs_append]
    · intro counter
      rw [Step.observations_append, Observation.tally_append]

/-- A text that is cut, comes upon an unknown filter and a failing one, and cannot be hashed: the
chain goes on with the empty text, and would do so without the two. -/
theorem applyFilters_course_without_digest :
    let r := Registry.new ⟨none, true, ⟨true⟩⟩
    let final := (r.applyFilters (.ready (.str " a ")) ["trim", "nope", "substr:x", "hash"]).2
    r.Course (.str " a ") [("trim", .applied "trim" none), ("nope", .unknown "nope"),
      ("substr:x", .failed "substr" (.notANumber "Start index" "'x'")),
      ("hash", .applied "hash" (some .noDigest))] (.str "") ∧
    final = .ready (.str "") ∧
    (r.applyFilters (.ready (.str " a ")) ["trim", "hash"]).2 = final := by
  intro r final
  have htrim : r.Ends (.str " a ") "trim" (.applied "trim" none) (.str "a") :=
    .applied (show FilterCall.parse "trim" = .ok ⟨"trim", []⟩ by decide +kernel) rfl
      (.sync (by decide +kernel))
  have hnope : r.Ends (.str "a") "nope" (.unknown "nope") (.str "a") :=
    .unknown (show FilterCall.parse "nope" = .ok ⟨"nope", []⟩ by decide +kernel) rfl
  have hsubstr : r.Ends (.str "a") "substr:x"
      (.failed "substr" (.notANumber "Start index" "'x'")) (.str "a") :=
    .failed (show FilterCall.parse "substr:x" = .ok ⟨"substr", ["x"]⟩ by decide +kernel) rfl
      (.sync (by decide +kernel))
  have hhash : r.Ends (.str "a") "hash" (.applied "hash" (some .noDigest)) (.str "") :=
    .applied (show FilterCall.parse "hash" = .ok ⟨"hash", []⟩ by decide +kernel) rfl
      (.unhashed (.noDigest rfl))
  have hcourse := Course.cons htrim (.cons hnope (.cons hsubstr (.cons hhash (.nil _))))
  obtain ⟨⟨course, w, hsegments, hends, hunique, hfinal, -, hkept, -⟩, -⟩ :=
    applyFilters_course (r := r) rfl (returnsValues_new _) rfl (.str " a ")
      ["trim", "nope", "substr:x", "hash"]
  obtain ⟨rfl, rfl⟩ := hunique _ _ rfl hcourse
  exact ⟨hcourse, hfinal, hkept.trans hfinal.symm⟩

end Registry

end UrlTemplate
