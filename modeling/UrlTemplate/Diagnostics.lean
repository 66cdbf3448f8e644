import UrlTemplate.Observation
import UrlTemplate.Value.Quoted

/-!
# Diagnostics

Two kinds of problems are reported. A problem in a template is logged as an error and counted, and
the run goes on. A violated assertion, a mistake of the developer, is logged as critical and ends
the operation with a `Violation`.
-/

namespace UrlTemplate

/-- A violated assertion: its event, and named values that describe it. -/
structure Violation where
  event : String
  context : Fields
deriving DecidableEq, Repr

/-- The message of a violation: the event and, if there are any, the named values. -/
def Violation.message (v : Violation) : String :=
  match v.context with
  | [] => v.event
  | context =>
    v.event ++ ": " ++
      ", ".intercalate (context.map fun (name, value) => name ++ "=" ++ value.quoted)

/-- The channels on which a service reports problems. -/
structure Diagnostics where
  /-- Whether reported problems are counted. -/
  recordMetrics : Bool
deriving DecidableEq, Repr

namespace Diagnostics

/-- The mark of every diagnostic in the log. -/
def tag : String × Value := ("tag", .str "Analytics.Variables")

/-- A diagnostic as a log entry. -/
def entry (level : Level) (event : String) (context : Fields) : LogEntry :=
  ⟨level, event, tag :: context⟩

/-- Reports a problem in a template; it is counted if metrics are recorded. -/
def userError (d : Diagnostics) (event : String) (context : Fields) : List Observation :=
  (if d.recordMetrics then [.count (.diagnostics event)] else [])
    ++ [.log (entry .error event context)]

/-- Notes a step of the work. -/
def debug (event : String) (context : Fields) : Observation :=
  .log (entry .debug event context)

/-- Reports a violation. -/
def critical (v : Violation) : Observation :=
  .log (entry .critical v.event v.context)

/-- Checks an assertion, and reports its violation. -/
def assert (condition : Bool) (event : String) (context : Fields) :
    List Observation × Except Violation Unit :=
  if condition then ([], .ok ())
  else
    let v : Violation := ⟨event, context⟩
    ([critical v], .error v)

end Diagnostics

end UrlTemplate
