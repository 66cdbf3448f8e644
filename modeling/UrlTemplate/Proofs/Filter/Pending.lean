import UrlTemplate.Filter.Stock
import UrlTemplate.Proofs.Expansion.Run
import UrlTemplate.Proofs.Filter.Chain

/-!
# Pending values in filter chains

A filter may answer with a pending value, which a synchronous filter behind it awaits. The settled
registry has the same filters, but they give such a value at once (`Registry.settled`). A chain in
which every pending value is directly followed by a synchronous filter (`Registry.Awaited`) does the
same with either registry as long as those filters accept what they await
(`Awaited.sameEnd_settled`): waiting shows nothing, and the awaited value is all that the filter
sees (`applySegment_pending_of_accepts`).

A synchronous filter that refuses the value it has awaited is reported as it would be without the
waiting, but the value is gone: the pending item is spent, and the spent item goes on
(`applySegment_pending_of_refuses`).

**Theorem** (`applyFilters_settled`): a chain of this kind either ends as with the settled registry,
or comes to a first filter that refuses what it has awaited (`FirstRefusal`) and goes on from there
with nothing but a spent item.
-/

namespace UrlTemplate

open Template

/-! ### Giving pending values at once -/

/-- A pending value as the value itself. -/
def Item.settled : Item → Item
  | .pending (.ready v) => .ready v
  | item => item

/-- The handler that gives at once what another one gives as a pending value. -/
def Handler.settled : Handler → Handler
  | .sync apply => .sync fun item args => (apply item args).map Item.settled
  | .async apply => .async fun item args =>
    let reply := apply item args
    { reply with outcome := reply.outcome.map Item.settled }
  | .hash => .hash

/-- A settled handler goes the same way, and the value of a pending answer is its answer. -/
theorem Handler.run_settled (handler : Handler) (context : FilterContext) (item : Item)
    (args : List String) :
    handler.settled.run context item args =
      { handler.run context item args with
        outcome := (handler.run context item args).outcome.map Item.settled } := by
  cases handler with
  | sync apply =>
    simp only [settled, run, Application.mk.injEq, true_and, and_true]
    rcases item.await with e | awaited <;> rfl
  | async apply => rfl
  | hash => rfl

namespace Registry

variable {r : Registry} {v w : Value} {segment next : String}

/-- The registry whose filters give pending values at once. -/
def settled (r : Registry) : Registry :=
  { r with filters := r.filters.map fun entry => (entry.1, entry.2.settled) }

/-- Settling changes the handlers and no name. -/
theorem get?_settled (r : Registry) (name : String) :
    r.settled.get? name = (r.get? name).map Handler.settled := by
  unfold get? settled
  induction r.filters with
  | nil => rfl
  | cons entry rest ih =>
    rw [List.map_cons, Entries.lookup_cons, Entries.lookup_cons, ih]
    split <;> rfl

/-- On a value, a segment shows the same with the settled registry, and a pending value that it
leaves is there at once. -/
theorem applySegment_settled (r : Registry) (v : Value) (segment : String) :
    r.settled.applySegment (.ready v) segment =
      ((r.applySegment (.ready v) segment).1, (r.applySegment (.ready v) segment).2.settled) := by
  have hreport : ∀ event details, r.settled.report event details = r.report event details :=
    report_congr rfl
  rcases hparse : FilterCall.parse segment with e | call
  · rw [applySegment_of_malformed hparse, applySegment_of_malformed hparse, hreport]
    rfl
  · have hsettled := get?_settled r call.name
    rcases hget : r.get? call.name with _ | handler
    · rw [hget] at hsettled
      rw [applySegment_of_unknown hparse hget, applySegment_of_unknown hparse hsettled, hreport]
      rfl
    · rw [hget] at hsettled
      rw [applySegment_of_handler hparse hget, applySegment_of_handler hparse hsettled]
      have hrun := handler.run_settled r.context (.ready v) call.args
      rcases houtcome : (handler.run r.context (.ready v) call.args).outcome with e | item
      · have houtcome' :
            (handler.settled.run r.context (.ready v) call.args).outcome = .error e := by
          rw [hrun, houtcome]
          rfl
        rw [applyHandler_of_error houtcome, applyHandler_of_error (r := r.settled) houtcome',
          hreport]
        simp only [show r.settled.context = r.context from rfl, hrun, left_run_ready]
        rfl
      · have houtcome' :
            (handler.settled.run r.context (.ready v) call.args).outcome = .ok item.settled := by
          rw [hrun, houtcome]
          rfl
        rw [applyHandler_of_ok houtcome, applyHandler_of_ok (r := r.settled) houtcome']
        simp only [show r.settled.context = r.context from rfl, hrun]
        rfl

/-! ### Awaiting -/

/-- A segment calls a synchronous filter. -/
def CallsSync (r : Registry) (segment : String) : Prop :=
  ∃ call apply, FilterCall.parse segment = .ok call ∧ r.get? call.name = some (.sync apply)

/-- A segment calls a synchronous filter, which answers a value. -/
def Accepts (r : Registry) (segment : String) (v : Value) : Prop :=
  ∃ call apply item, FilterCall.parse segment = .ok call ∧
    r.get? call.name = some (.sync apply) ∧ apply (.ready v) call.args = .ok item

/-- A segment calls a synchronous filter, which fails on a value. -/
def Refuses (r : Registry) (segment : String) (v : Value) : Prop :=
  ∃ call apply e, FilterCall.parse segment = .ok call ∧
    r.get? call.name = some (.sync apply) ∧ apply (.ready v) call.args = .error e

/-- A synchronous filter accepts a value or refuses it. -/
theorem CallsSync.accepts_or_refuses (h : r.CallsSync segment) (v : Value) :
    r.Accepts segment v ∨ r.Refuses segment v := by
  obtain ⟨call, apply, hparse, hget⟩ := h
  rcases happly : apply (.ready v) call.args with e | item
  · exact .inr ⟨call, apply, e, hparse, hget, happly⟩
  · exact .inl ⟨call, apply, item, hparse, hget, happly⟩

/-- A synchronous filter that accepts a pending value does with it what it does with the value, and
waiting shows nothing. -/
theorem applySegment_pending_of_accepts (h : r.Accepts segment v) :
    Step.observations (r.applySegment (.pending (.ready v)) segment).1 =
        Step.observations (r.applySegment (.ready v) segment).1 ∧
      (r.applySegment (.pending (.ready v)) segment).2 =
        (r.applySegment (.ready v) segment).2 := by
  obtain ⟨call, apply, item, hparse, hget, happly⟩ := h
  have hpending :
      ((Handler.sync apply).run r.context (.pending (.ready v)) call.args).outcome = .ok item :=
    happly
  have hready : ((Handler.sync apply).run r.context (.ready v) call.args).outcome = .ok item :=
    happly
  rw [applySegment_of_handler hparse hget, applySegment_of_handler hparse hget,
    applyHandler_of_ok hpending, applyHandler_of_ok hready]
  simp only [Step.observations_append, Handler.run, Step.observations_pauses, and_self]

/-- A synchronous filter that refuses a pending value is reported as for the value, and leaves a
spent item. -/
theorem applySegment_pending_of_refuses (h : r.Refuses segment v) :
    Step.observations (r.applySegment (.pending (.ready v)) segment).1 =
        Step.observations (r.applySegment (.ready v) segment).1 ∧
      (r.applySegment (.pending (.ready v)) segment).2 = .spent ∧
      (r.applySegment (.ready v) segment).2 = .ready v := by
  obtain ⟨call, apply, e, hparse, hget, happly⟩ := h
  have hpending :
      ((Handler.sync apply).run r.context (.pending (.ready v)) call.args).outcome = .error e :=
    happly
  have hready : ((Handler.sync apply).run r.context (.ready v) call.args).outcome = .error e :=
    happly
  rw [applySegment_of_handler hparse hget, applySegment_of_handler hparse hget,
    applyHandler_of_error hpending, applyHandler_of_error hready]
  simp only [Step.observations_append, Handler.run, Step.observations_pauses, true_and]
  exact ⟨rfl, rfl⟩

/-- No synchronous filter can do anything with a spent item: it fails and leaves it spent. -/
theorem applySegment_spent_of_callsSync (h : r.CallsSync segment) :
    ∃ filter, Calls filter segment ∧
      r.applySegment .spent segment =
        (r.countApplication filter false ++ r.report "filter_failed"
          [("filter", .str filter), ("error", .str FilterError.alreadyAwaited.message)],
          .spent) := by
  obtain ⟨call, apply, hparse, hget⟩ := h
  have hspent :
      ((Handler.sync apply).run r.context .spent call.args).outcome = .error .alreadyAwaited := rfl
  refine ⟨call.name, ⟨call, hparse, rfl⟩, ?_⟩
  rw [applySegment_of_handler hparse hget, applyHandler_of_error hspent]
  rfl

/-! ### Chains -/

/-- A chain whose values are given at once wherever they are pending: each segment that answers with
a pending value is directly followed by one that takes it. -/
inductive Awaited (r : Registry) (Takes : String → Value → Prop) : Value → List String → Prop
  | nil (v : Value) : Awaited r Takes v []
  | ready {v w : Value} {segment : String} {rest : List String}
      (h : (r.applySegment (.ready v) segment).2 = .ready w) (hrest : Awaited r Takes w rest) :
      Awaited r Takes v (segment :: rest)
  | pending {v w : Value} {segment next : String} {rest : List String}
      (h : (r.applySegment (.ready v) segment).2 = .pending (.ready w)) (hnext : Takes next w)
      (hrest : Awaited r Takes w (next :: rest)) : Awaited r Takes v (segment :: next :: rest)

/-- Two chains show the same and end with the same item. -/
def SameEnd (a b : List Step × Item) : Prop :=
  Step.observations a.1 = Step.observations b.1 ∧ a.2 = b.2

/-- After segments that end in the same way, chains that end in the same way do so as a whole. -/
theorem SameEnd.applyFilters_cons {r' : Registry} {item item' : Item} {segment : String}
    {rest : List String}
    (hfirst : Step.observations (r.applySegment item segment).1 =
      Step.observations (r'.applySegment item' segment).1)
    (hrest : SameEnd (r.applyFilters (r.applySegment item segment).2 rest)
      (r'.applyFilters (r'.applySegment item' segment).2 rest)) :
    SameEnd (r.applyFilters item (segment :: rest)) (r'.applyFilters item' (segment :: rest)) := by
  refine ⟨?_, ?_⟩
  · rw [Registry.applyFilters_cons, Registry.applyFilters_cons, Step.observations_append,
      Step.observations_append, hfirst, hrest.1]
  · rw [Registry.applyFilters_cons, Registry.applyFilters_cons]
    exact hrest.2

/-- A filter that accepts a pending value makes no difference for the rest of the chain. -/
theorem sameEnd_pending_of_accepts (h : r.Accepts segment v) (rest : List String) :
    SameEnd (r.applyFilters (.pending (.ready v)) (segment :: rest))
      (r.applyFilters (.ready v) (segment :: rest)) := by
  obtain ⟨hshown, hleft⟩ := applySegment_pending_of_accepts h
  exact SameEnd.applyFilters_cons hshown (by rw [hleft]; exact ⟨rfl, rfl⟩)

/-- **Where all pending values are accepted, a chain ends as if they had been given at once.** -/
theorem Awaited.sameEnd_settled {segments : List String}
    (h : r.Awaited r.Accepts v segments) :
    SameEnd (r.applyFilters (.ready v) segments) (r.settled.applyFilters (.ready v) segments) := by
  induction h with
  | nil v => exact ⟨rfl, rfl⟩
  | @ready v w segment rest h hrest ih =>
    have hsettled := applySegment_settled r v segment
    refine SameEnd.applyFilters_cons (by rw [hsettled]) ?_
    rw [hsettled, h]
    exact ih
  | @pending v w segment next rest h hnext hrest ih =>
    have hsettled := applySegment_settled r v segment
    refine SameEnd.applyFilters_cons (by rw [hsettled]) ?_
    rw [hsettled, h]
    have haccepted := sameEnd_pending_of_accepts hnext rest
    exact ⟨haccepted.1.trans ih.1, haccepted.2.trans ih.2⟩

/-- A chain comes to a synchronous filter that refuses the value it has awaited, the first of them:
`before` ends with a value that is still pending, and `refusing` fails on it. -/
structure FirstRefusal (r : Registry) (v : Value) (before : List String) (refusing : String)
    (w : Value) : Prop where
  pending : (r.applyFilters (.ready v) before).2 = .pending (.ready w)
  /-- Given at once, the value is there. -/
  settled : (r.settled.applyFilters (.ready v) before).2 = .ready w
  observations : Step.observations (r.applyFilters (.ready v) before).1 =
    Step.observations (r.settled.applyFilters (.ready v) before).1
  refuses : r.Refuses refusing w

/-- A segment in front, after which the chain goes on as from a value, keeps a first refusal. -/
theorem FirstRefusal.cons {u : Value} {before : List String} {refusing : String}
    (h : r.FirstRefusal u before refusing w)
    (hsettled : (r.applySegment (.ready v) segment).2.settled = .ready u)
    (hbefore : SameEnd (r.applyFilters (r.applySegment (.ready v) segment).2 before)
      (r.applyFilters (.ready u) before)) :
    r.FirstRefusal v (segment :: before) refusing w where
  pending := by
    rw [applyFilters_cons]
    exact hbefore.2.trans h.pending
  settled := by
    rw [applyFilters_cons, applySegment_settled, hsettled]
    exact h.settled
  observations := by
    rw [applyFilters_cons, applyFilters_cons, applySegment_settled, hsettled,
      Step.observations_append, Step.observations_append, hbefore.1, h.observations]
  refuses := h.refuses

/-- If all pending values are awaited at once, all are accepted or there is a first refusal. -/
theorem Awaited.accepts_or_refusal {segments : List String}
    (h : r.Awaited (fun next _ => r.CallsSync next) v segments) :
    r.Awaited r.Accepts v segments ∨
      ∃ before refusing rest w, segments = before ++ refusing :: rest ∧
        r.FirstRefusal v before refusing w := by
  induction h with
  | nil v => exact .inl (.nil v)
  | @ready v w segment rest h hrest ih =>
    rcases ih with haccepted | ⟨before, refusing, rest, u, rfl, hfirst⟩
    · exact .inl (.ready h haccepted)
    · refine .inr ⟨segment :: before, refusing, rest, u, rfl, hfirst.cons ?_ ?_⟩
      · rw [h]
        rfl
      · rw [h]
        exact ⟨rfl, rfl⟩
  | @pending v w segment next rest h hnext hrest ih =>
    rcases hnext.accepts_or_refuses w with haccepts | hrefuses
    · rcases ih with haccepted | ⟨before, refusing, rest', u, heq, hfirst⟩
      · exact .inl (.pending h haccepts haccepted)
      · -- the value is no pending one yet, so the refusal comes behind the next segment
        cases before with
        | nil => cases hfirst.pending
        | cons head before =>
          obtain ⟨rfl, rfl⟩ := List.cons.inj heq
          refine .inr ⟨segment :: next :: before, refusing, rest', u, rfl, hfirst.cons ?_ ?_⟩
          · rw [h]
            rfl
          · rw [h]
            exact sameEnd_pending_of_accepts haccepts before
    · refine .inr ⟨[segment], next, rest, w, rfl, ?_, ?_, ?_, hrefuses⟩
      · rw [applyFilters_cons, h]
        rfl
      · rw [applyFilters_cons, applySegment_settled, h]
        rfl
      · rw [applyFilters_cons, applyFilters_cons, applySegment_settled]
        rfl

/-- A chain goes on from its first refusal with a spent item, where it would go on with the awaited
value if that had been given at once. -/
theorem FirstRefusal.applyFilters {before : List String} {refusing : String}
    (h : r.FirstRefusal v before refusing w) (rest : List String) :
    let shown := Step.observations (r.settled.applyFilters (.ready v) (before ++ [refusing])).1
    let actual := r.applyFilters (.ready v) (before ++ refusing :: rest)
    let direct := r.settled.applyFilters (.ready v) (before ++ refusing :: rest)
    (Step.observations actual.1 = shown ++ Step.observations (r.applyFilters .spent rest).1 ∧
      actual.2 = (r.applyFilters .spent rest).2) ∧
    Step.observations direct.1 =
      shown ++ Step.observations (r.settled.applyFilters (.ready w) rest).1 ∧
    direct.2 = (r.settled.applyFilters (.ready w) rest).2 := by
  intro shown actual direct
  obtain ⟨hshown, hspent, hready⟩ := applySegment_pending_of_refuses h.refuses
  have hsettled := applySegment_settled r w refusing
  rw [hready] at hsettled
  have hthrough : shown =
      Step.observations (r.settled.applyFilters (.ready v) before).1 ++
        Step.observations (r.applySegment (.ready w) refusing).1 := by
    show Step.observations (r.settled.applyFilters (.ready v) (before ++ [refusing])).1 = _
    rw [applyFilters_append, h.settled, applyFilters_cons, hsettled, Step.observations_append,
      applyFilters_nil, List.append_nil]
  have hactual : actual = ((r.applyFilters (.ready v) before).1 ++
      ((r.applySegment (.pending (.ready w)) refusing).1 ++ (r.applyFilters .spent rest).1),
      (r.applyFilters .spent rest).2) := by
    show r.applyFilters (.ready v) (before ++ refusing :: rest) = _
    rw [applyFilters_append, h.pending, applyFilters_cons, hspent]
  have hdirect : direct = ((r.settled.applyFilters (.ready v) before).1 ++
      ((r.applySegment (.ready w) refusing).1 ++ (r.settled.applyFilters (.ready w) rest).1),
      (r.settled.applyFilters (.ready w) rest).2) := by
    show r.settled.applyFilters (.ready v) (before ++ refusing :: rest) = _
    rw [applyFilters_append, h.settled, applyFilters_cons, hsettled]
    rfl
  rw [hactual, hdirect, hthrough]
  simp only [Step.observations_append, hshown, h.observations, List.append_assoc, and_self]

/-- **Waiting makes no difference exactly as far as the awaiting filters accept what they get.** In
a chain in which every pending value is directly followed by a synchronous filter, either all of
them accept, and the chain shows the same and ends with the same item as with values that are given
at once. Or there is a first one that refuses; it is reported as it would be anyway, but what goes
on is a spent item instead of the value that it refused, and every synchronous filter that meets the
spent item fails and leaves it. -/
theorem applyFilters_settled {segments : List String}
    (h : r.Awaited (fun next _ => r.CallsSync next) v segments) :
    (r.Awaited r.Accepts v segments →
      SameEnd (r.applyFilters (.ready v) segments)
        (r.settled.applyFilters (.ready v) segments)) ∧
    (¬ r.Awaited r.Accepts v segments →
      ∃ before refusing rest w, segments = before ++ refusing :: rest ∧ r.Refuses refusing w ∧
        let shown := Step.observations (r.settled.applyFilters (.ready v) (before ++ [refusing])).1
        let actual := r.applyFilters (.ready v) segments
        let direct := r.settled.applyFilters (.ready v) segments
        (Step.observations actual.1 = shown ++ Step.observations (r.applyFilters .spent rest).1 ∧
          actual.2 = (r.applyFilters .spent rest).2) ∧
        Step.observations direct.1 =
          shown ++ Step.observations (r.settled.applyFilters (.ready w) rest).1 ∧
        direct.2 = (r.settled.applyFilters (.ready w) rest).2) ∧
    ∀ segment, r.CallsSync segment → ∃ filter, Calls filter segment ∧
      r.applySegment .spent segment =
        (r.countApplication filter false ++ r.report "filter_failed"
          [("filter", .str filter), ("error", .str FilterError.alreadyAwaited.message)],
          .spent) := by
  refine ⟨Awaited.sameEnd_settled, ?_, fun segment => applySegment_spent_of_callsSync⟩
  intro hrefused
  rcases h.accepts_or_refusal with haccepted | ⟨before, refusing, rest, w, rfl, hfirst⟩
  · exact absurd haccepted hrefused
  · exact ⟨before, refusing, rest, w, rfl, hfirst.refuses, hfirst.applyFilters rest⟩

/-- A text is trimmed and found present after waiting for it twice, as without waiting. -/
theorem applyFilters_settled_of_trim :
    let r : Registry :=
      { Registry.new ⟨none, true, ⟨true⟩⟩ with
        filters := builtins ++ [("later", .async Stock.defer)] }
    r.Awaited r.Accepts (.str " a ") ["later", "trim", "later", "default:z"] ∧
    (r.applyFilters (.ready (.str " a ")) ["later", "trim", "later", "default:z"]).2 =
      .ready (.str "a") := by
  intro r
  have htrim : FilterCall.parse "trim" = .ok ⟨"trim", []⟩ := by decide +kernel
  have hdefault : FilterCall.parse "default:z" = .ok ⟨"default", ["z"]⟩ := by decide +kernel
  have hawaited (Takes : String → Value → Prop) (hfirst : Takes "trim" (.str " a "))
      (hsecond : Takes "default:z" (.str "a")) :
      r.Awaited Takes (.str " a ") ["later", "trim", "later", "default:z"] :=
    .pending (by decide +kernel) hfirst (.ready (w := .str "a") (by decide +kernel)
      (.pending (by decide +kernel) hsecond (.ready (w := .str "a") (by decide +kernel) (.nil _))))
  have hcalls : r.Awaited (fun next _ => r.CallsSync next) (.str " a ")
      ["later", "trim", "later", "default:z"] :=
    hawaited _ ⟨_, _, htrim, rfl⟩ ⟨_, _, hdefault, rfl⟩
  have haccepted : r.Awaited r.Accepts (.str " a ") ["later", "trim", "later", "default:z"] :=
    hawaited _ ⟨_, _, .ready (.str "a"), htrim, rfl, by decide +kernel⟩
      ⟨_, _, .ready (.str "a"), hdefault, rfl, by decide +kernel⟩
  obtain ⟨-, hend⟩ := (applyFilters_settled hcalls).1 haccepted
  exact ⟨haccepted, hend.trans (by decide +kernel)⟩

/-- A refusal does make a difference: the empty text that `boom` refuses is gone for `if`, which
finds the spent item present. -/
theorem applyFilters_ne_settled_of_refusal :
    let r : Registry :=
      { Registry.new ⟨none, true, ⟨true⟩⟩ with filters := builtins ++
        [("later", .async Stock.defer), ("boom", .sync fun _ _ => .error (.raised "boom"))] }
    r.Awaited (fun next _ => r.CallsSync next) (.str "") ["later", "boom", "if:x:y"] ∧
    (r.applyFilters (.ready (.str "")) ["later", "boom"]).2 = .spent ∧
    (r.applyFilters (.ready (.str "")) ["later", "boom", "if:x:y"]).2 = .ready (.str "x") ∧
    (r.settled.applyFilters (.ready (.str "")) ["later", "boom", "if:x:y"]).2 =
      .ready (.str "y") := by
  intro r
  refine ⟨?_, by decide +kernel, by decide +kernel, by decide +kernel⟩
  refine .pending (w := .str "") (by decide +kernel) ?_
    (.ready (w := .str "") (by decide +kernel)
      (.ready (w := .str "y") (by decide +kernel) (.nil _)))
  exact ⟨⟨"boom", []⟩, _, by decide +kernel, rfl⟩

end Registry

end UrlTemplate
