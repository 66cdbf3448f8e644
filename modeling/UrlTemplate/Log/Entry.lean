import UrlTemplate.Entries
import UrlTemplate.Json.Printer

/-!
# Log entries

A log entry is an event with named values as its context, logged at a level.
-/

namespace UrlTemplate

/-- How grave a log entry is. -/
inductive Level
  | debug
  | info
  | warning
  | error
  | critical
deriving DecidableEq, Repr

namespace Level

/-- The levels in ascending order. -/
def all : List Level := [.debug, .info, .warning, .error, .critical]

/-- The place of a level in the order. -/
def severity : Level → Nat
  | .debug => 10
  | .info => 20
  | .warning => 30
  | .error => 40
  | .critical => 50

/-- The name of a level in a log entry. -/
def name : Level → String
  | .debug => "debug"
  | .info => "info"
  | .warning => "warning"
  | .error => "error"
  | .critical => "critical"

/-- The name of a level in settings. -/
def capitalName : Level → String
  | .debug => "DEBUG"
  | .info => "INFO"
  | .warning => "WARNING"
  | .error => "ERROR"
  | .critical => "CRITICAL"

/-- The level of a name. -/
def ofName? (name : String) : Option Level :=
  all.find? (·.name = name)

end Level

/-- One entry of a log. -/
structure LogEntry where
  level : Level
  event : String
  context : Fields
deriving DecidableEq, Repr

namespace LogEntry

/-- The entry as an object: its context, its event and its level under a given key. -/
def toValue (levelKey : String) (entry : LogEntry) : Value :=
  .object (Entries.putAll entry.context
    [("event", .str entry.event), (levelKey, .str entry.level.name)])

end LogEntry

/-- Values in the order of their sort texts. -/
def sortedByText (vs : List Value) : List Value :=
  ((vs.map fun v => (Json.sortText v, v)).mergeSort fun a b => a.1 ≤ b.1).map Prod.snd

end UrlTemplate
