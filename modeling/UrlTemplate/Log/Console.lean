import UrlTemplate.Log.Entry
import UrlTemplate.Text.Lines
import UrlTemplate.Value.Quoted

/-!
# Log entries for people

`Console.text` writes the fields of an entry for people: the time, the level, the event and who
logged it come first, each by its value alone, and the other fields follow with their names. A text
is written as it is where that is clear, so its own line ends break the line. A stack and an
exception follow on lines of their own, with a rule between them.
-/

namespace UrlTemplate.Console

/-- A value of a given kind stands where lines of text should be. -/
structure Fault where
  kind : String
deriving DecidableEq, Repr

/-- The message for a value that is no text. -/
def Fault.message (fault : Fault) : String :=
  "can only concatenate str (not \"" ++ fault.kind ++ "\") to str"

/-- The fields that come first, by their values alone. -/
def leading : List String := ["timestamp", "level", "event", "logger", "logger_name"]

/-- The fields that follow the line. -/
def trailing : List String := ["stack", "exception", "exc_info"]

/-- Text set off from its surroundings: marks before and after it switch its style on and off. -/
def styled (cs : List Char) : List Char :=
  "\x1b[1m".toList ++ cs ++ "\x1b[0m".toList

/-- A value that comes without its name: a text as it is. -/
def plainChars : Value → List Char
  | .str s => s.toList
  | v => v.quotedChars

/-- Whether a text is in quotes where it follows its name. -/
def needsQuotes (s : String) : Bool :=
  s.toList.any ([' ', '\t', '=', '\r', '\n', '"', '\''].contains ·)

/-- A value that follows its name. -/
def valueChars : Value → List Char
  | .str s => if needsQuotes s then (Text.quoted s).toList else s.toList
  | v => v.quotedChars

/-- The parts of the line of an entry. -/
def parts (fields : Fields) : List (List Char) :=
  let named := fields.filter fun (name, _) => name ∉ leading ∧ name ∉ trailing
  (leading.filterMap fun name => (fields.lookup name).map fun v => styled (plainChars v)) ++
    (named.mergeSort (·.1 ≤ ·.1)).map fun (name, v) =>
      styled name.toList ++ '=' :: styled (valueChars v)

/-- The text of a field that should be one; `none` if it is absent. -/
def lines? (fields : Fields) (name : String) : Except Fault (Option (List Char)) :=
  match fields.lookup name with
  | none => .ok none
  | some .null => .ok none
  | some (.str s) => .ok (some s.toList)
  | some v => .error ⟨v.kind⟩

/-- The rule between a stack and an exception. -/
def rule : List Char :=
  '\n' :: '\n' :: List.replicate 79 '=' ++ ['\n']

/-- The text of an entry for people. The rule is also written where there is no text for an
exception, but a mark that there has been one. -/
def text (fields : Fields) : Except Fault (List Char) := do
  let line := [' '].intercalate (parts fields)
  let exceptional := ((fields.lookup "exc_info").getD .null).truthy ||
    (fields.lookup "exception").getD .null ≠ .null
  let stack := match ← lines? fields "stack" with
    | some stack => '\n' :: stack ++ if exceptional then rule else []
    | none => []
  let exception := match ← lines? fields "exception" with
    | some exception => '\n' :: exception
    | none => []
  return line ++ stack ++ exception ++ ['\n']

/-- How many lines an entry takes for people. -/
def height (fields : Fields) : Except Fault Nat :=
  (text fields).map Text.lineEnds

end UrlTemplate.Console
