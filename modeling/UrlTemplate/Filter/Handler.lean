import UrlTemplate.Diagnostics
import UrlTemplate.Digest
import UrlTemplate.Encoding
import UrlTemplate.Filter.Builtin

/-!
# Filter handlers

What a filter name stands for. A synchronous handler answers at once, after waiting for a pending
item. An asynchronous one takes the item as it is and may give way to other work before it answers.
The handler of `hash` uses the digest of the service.

A pending item can be awaited once: when the synchronous handler that awaited it fails, what goes on
is spent.
-/

namespace UrlTemplate

/-- The answer of an asynchronous handler: how often it gives way first, and what it answers. -/
structure Reply where
  pauses : Nat
  outcome : Except FilterError Item

/-- What a filter name stands for. -/
inductive Handler
  | sync (apply : Item → List String → Except FilterError Item)
  | async (apply : Item → List String → Reply)
  /-- The digest of the service. -/
  | hash

/-- Whether a handler answers at once. -/
def Handler.isSync : Handler → Bool
  | .sync _ => true
  | _ => false

/-- The handlers that a registration for synchronous handlers takes, or one for others. A host can
bring any function to either: what gives a pending item answers at once, and what gives nothing to
wait for fails as an asynchronous handler. -/
abbrev Handler.OfKind (sync : Bool) : Type :=
  { handler : Handler // handler.isSync = sync }

/-- One step of a run: it shows something, gives way to other work, or writes a value into a
text. -/
inductive Step
  | observe (o : Observation)
  | pause
  | write (v : Value)
deriving DecidableEq, Repr

namespace Step

/-- The observation of a step, if it shows something. -/
def observation? : Step → Option Observation
  | .observe o => some o
  | .pause => none
  | .write _ => none

/-- Why a step cannot be taken, if it writes a value that cannot be written. -/
def fault? : Step → Option WriteFault
  | .write v => v.fault? .text
  | _ => none

/-- What some steps show. -/
def observations (steps : List Step) : List Observation :=
  steps.filterMap observation?

/-- How often some steps give way. -/
def pauses (steps : List Step) : Nat :=
  steps.count .pause

end Step

/-- What the handlers of a service depend on. -/
structure FilterContext where
  digest : Option Digest
  /-- Whether applications of filters are counted. -/
  recordMetrics : Bool
  diagnostics : Diagnostics

/-- Hashes a text. Whenever that is not possible the result is empty, so the item never gets out. -/
def FilterContext.hash (context : FilterContext) (item : Item) : List Observation × Value :=
  let report (event : String) (details : Fields) :=
    (context.diagnostics.userError event (("filter", .str "hash") :: details),
      Value.str "")
  match context.digest, item with
  | none, _ => report "digest_unavailable" []
  | some digest, .ready (.str s) =>
    match digest.digest s with
    | .ok hashed => ([], .str hashed)
    | .error (.unavailable message) => report "digest_unavailable" [("error", .str message)]
    | .error (.failed message) => report "filter_failed" [("error", .str message)]
  | some _, item =>
    report "filter_failed" [("error", .str (FilterError.expectsText "hash" item.kind).message)]

/-- The course of one application of a handler. -/
structure Application where
  steps : List Step
  outcome : Except FilterError Item
  /-- What the item that the handler received has become. -/
  left : Item

/-- Applies a handler to an item. -/
def Handler.run (handler : Handler) (context : FilterContext) (item : Item) (args : List String) :
    Application :=
  match handler with
  | .sync apply =>
    ⟨List.replicate item.pauses .pause, do apply (← item.await) args, item.awaited⟩
  | .async apply =>
    let reply := apply item args
    ⟨List.replicate reply.pauses .pause, reply.outcome, item⟩
  | .hash =>
    let (observations, hashed) := context.hash item
    ⟨observations.map .observe, .ok (.ready hashed), item⟩

end UrlTemplate
