import UrlTemplate.Expansion.Expander

/-!
# The expansion service

A service holds a filter registry and the defaults of expansions. `Service.expand` is what a request
comes to where every value that it writes can be written, and `Service.answer` what it comes to in
any case: it fails at the first value that cannot be. `Service.gather` answers several requests that
run side by side, and `Service.perform` any command, so that a session is a sequence of commands.
-/

namespace UrlTemplate

/-- A service: its filters and the defaults of its requests. -/
structure Service where
  registry : Registry
  /-- The default depth budget: how many levels below the template may be expanded. -/
  maxIterations : Int
  /-- Whether results are percent-encoded by default. -/
  encode : Bool
  /-- Whether expansions and placeholders are counted. -/
  recordMetrics : Bool

/-- A request to expand a template; absent parts take the defaults of the service. -/
structure Request where
  template : Value
  scopes : Scopes
  iterations : Option Int
  encode : Option Bool

/-- Why a command failed. -/
inductive Failure
  | violation (v : Violation)
  | expansion (error : ExpansionError)
  /-- A value cannot be written. -/
  | unwritable (fault : WriteFault)
deriving DecidableEq, Repr

/-- The message of a failed command. -/
def Failure.message : Failure → String
  | .violation v => v.message
  | .expansion error => error.message
  | .unwritable fault => fault.message

/-- What can be asked of a service. -/
inductive Command
  | register (name : String) (sync : Bool) (handler : Option (Handler.OfKind sync))
  | attachDigest (digest : Option Digest)
  | applyFilters (value : Value) (segments : List String)
  | encodeValue (value : Value)
  | expand (request : Request)
  | gather (requests : List Request)

/-- What a command has shown and what it answers. -/
structure Report where
  observations : List Observation
  result : Except Failure Value

namespace Service

/-- A service with the built-in filters. Whether it counts the problems that it reports is up to its
diagnostics, which are its own unless some are given. -/
def new (digest : Option Digest) (maxIterations : Int) (encode recordMetrics : Bool)
    (diagnostics : Option Diagnostics) : Service :=
  ⟨.new ⟨digest, recordMetrics, diagnostics.getD ⟨recordMetrics⟩⟩, maxIterations, encode,
    recordMetrics⟩

/-- The counts at the end of an expansion. -/
def finalCounts (s : Service) (piece : Piece) : List Step :=
  if s.recordMetrics then
    [.observe (.count .latency), .observe (.count (.expansions piece.exhausted))]
  else []

/-- The task of a request. -/
def task (s : Service) (request : Request) : Task :=
  match request.template with
  | .str template =>
    let x : Expander :=
      ⟨s.registry, request.scopes, request.encode.getD s.encode, s.recordMetrics⟩
    let budget := request.iterations.getD s.maxIterations
    (x.expand (budget + 1).toNat template.toList).bind fun piece =>
      .after (s.finalCounts piece) (.done piece)
  | _ => .fail .templateNotText

/-- What the outcome of a task is for the one who asked. -/
def reply (outcome : Outcome Piece) : Outcome String :=
  ⟨outcome.observations, outcome.result.map fun piece => String.ofList piece.text⟩

/-- What a request comes to where every value that it writes can be written. -/
def expand (s : Service) (request : Request) : Outcome String :=
  reply (s.task request).run

/-- Answers a request. -/
def answer (s : Service) (request : Request) : Outcome String :=
  reply (s.task request).checked.run

/-- The error of the task that fails first when tasks run side by side, the first of those that fail
in the same round, with that round. -/
def firstFailure? : List Task → Option (Nat × ExpansionError)
  | [] => none
  | task :: rest =>
    match task.run.result, firstFailure? rest with
    | .ok _, later => later
    | .error error, none => some (task.turns, error)
    | .error error, some (turns, other) =>
      if task.turns ≤ turns then some (task.turns, error) else some (turns, other)

/-- Answers requests that run side by side: all of them, or the failure that comes first. -/
def gather (s : Service) (requests : List Request) : Outcome (List String) :=
  let outcomes := requests.map s.answer
  let observations := outcomes.flatMap Outcome.observations
  match firstFailure? (requests.map fun request => (s.task request).checked) with
  | some (_, error) => ⟨observations, .error error⟩
  | none => ⟨observations, outcomes.mapM Outcome.result⟩

/-- Carries a command out. -/
def perform (s : Service) : Command → Service × Report
  | .register name sync handler =>
    let (observations, registered) := s.registry.register name sync handler
    match registered with
    | .ok registry => ({ s with registry }, ⟨observations, .ok .null⟩)
    | .error v => (s, ⟨observations, .error (.violation v)⟩)
  | .attachDigest digest =>
    ({ s with registry := s.registry.attachDigest digest }, ⟨[], .ok .null⟩)
  | .applyFilters value segments =>
    let (steps, item) := s.registry.applyFilters (.ready value) segments
    (s, ⟨Step.observations steps, .ok item.shown⟩)
  | .encodeValue value =>
    (s, ⟨[], match value.fault? .text with
      | some fault => .error (.unwritable fault)
      | none => .ok (.str (UrlTemplate.encodeValue value))⟩)
  | .expand request =>
    let outcome := s.answer request
    (s, ⟨outcome.observations, (outcome.result.map Value.str).mapError .expansion⟩)
  | .gather requests =>
    let outcome := s.gather requests
    (s, ⟨outcome.observations,
      (outcome.result.map fun texts => .list (texts.map .str)).mapError .expansion⟩)

end Service

end UrlTemplate
