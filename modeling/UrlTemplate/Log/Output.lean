import UrlTemplate.Log.Console
import UrlTemplate.Text.Case

/-!
# Writing the log

A log output is set up with a level, below which entries are dropped, and a format. Values that are
bound to the output are added to every later entry, whose own context takes precedence.
-/

namespace UrlTemplate

/-- The form of the lines of a log. -/
inductive LogFormat
  /-- One JSON object per entry. -/
  | json
  /-- Lines for people. -/
  | console
deriving DecidableEq, Repr

namespace LogFormat

/-- All formats. -/
def all : List LogFormat := [.json, .console]

/-- The name of a format in settings. -/
def name : LogFormat → String
  | .json => "json"
  | .console => "console"

/-- The format of a name; every name but `json` is for people. -/
def ofName (name : String) : LogFormat :=
  if name = "json" then .json else .console

end LogFormat

/-- A log that has been set up. -/
structure LogOutput where
  threshold : Level
  format : LogFormat
  bound : Fields
deriving DecidableEq, Repr

namespace LogOutput

/-- The level of a name in any letter case; a name that is none means `info`. -/
def levelOf (name : String) : Level :=
  (Level.all.find? (·.capitalName = Text.upper name)).getD .info

/-- A log output with nothing bound. -/
def setup (level format : String) : LogOutput :=
  ⟨levelOf level, .ofName format, []⟩

/-- Adds values to every later entry. -/
def bind (out : LogOutput) (context : Fields) : LogOutput :=
  { out with bound := Entries.putAll out.bound context }

/-- Drops the bound values. -/
def clear (out : LogOutput) : LogOutput :=
  { out with bound := [] }

/-- Whether an entry is written. -/
def admits (out : LogOutput) (entry : LogEntry) : Bool :=
  out.threshold.severity ≤ entry.level.severity

/-- The fields of a written entry, but for the time, which is noted as present. -/
def fields (out : LogOutput) (entry : LogEntry) : Fields :=
  Entries.putAll (Entries.putAll out.bound entry.context)
    [("event", .str entry.event), ("level", .str entry.level.name), ("timestamp", .bool true)]

end LogOutput

/-- What can be done with a log output. -/
inductive LogCommand
  | bind (context : Fields)
  | clear
  | log (entry : LogEntry)
deriving DecidableEq, Repr

/-- What has been written: objects, or a number of lines for people. -/
inductive Transcript
  | lines (objects : List Value)
  | count (lines : Nat)
deriving DecidableEq, Repr

namespace Transcript

/-- The transcript of nothing in a format. -/
def empty : LogFormat → Transcript
  | .json => .lines []
  | .console => .count 0

/-- A transcript followed by another one of the same format. -/
def append : Transcript → Transcript → Transcript
  | .lines first, .lines second => .lines (first ++ second)
  | .count first, .count second => .count (first + second)
  | first, _ => first

/-- The objects in the order of their sort texts. -/
def sorted : Transcript → Transcript
  | .lines objects => .lines (sortedByText objects)
  | .count n => .count n

end Transcript

namespace LogOutput

/-- Writes an entry, unless its level is too low. -/
def write (out : LogOutput) (entry : LogEntry) : Except Console.Fault Transcript :=
  if !out.admits entry then .ok (.empty out.format)
  else
    match out.format with
    | .json => .ok (.lines [.object (out.fields entry)])
    | .console => (Console.height (out.fields entry)).map .count

/-- Carries commands out and answers with what they write. -/
def transcript (out : LogOutput) : List LogCommand → Except Console.Fault Transcript
  | [] => .ok (.empty out.format)
  | .bind context :: rest => (out.bind context).transcript rest
  | .clear :: rest => out.clear.transcript rest
  | .log entry :: rest => do
    let written ← out.write entry
    return written.append (← out.transcript rest)

end LogOutput

end UrlTemplate
