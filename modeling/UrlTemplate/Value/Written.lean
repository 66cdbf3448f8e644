import UrlTemplate.Json.Printer
import UrlTemplate.Text.Numeral
import UrlTemplate.Value.Quoted
import UrlTemplate.Value.Text

/-!
# Which values can be written

A value is written inside a text, as JSON, or inside a message, and not every value can be: a whole
number is written with `Text.maxDigits` digits at most, lists and objects nest only so deep, and a
string that is no text has no characters to write. `Value.fault?` is the first fault that writing a
value comes upon, and `Value.written` the text if there is none.
-/

namespace UrlTemplate

/-- The ways in which a value is written. -/
inductive Writing
  /-- Inside a text, where objects are written as JSON. -/
  | text
  | json
  /-- Inside a message. -/
  | message
deriving DecidableEq, Repr

/-- Why a value cannot be written. -/
inductive WriteFault
  /-- A whole number has too many digits. -/
  | overlong
  /-- Lists and objects nest too deep to be written in some way. -/
  | tooDeep (writing : Writing)
  /-- A string is no text. -/
  | brokenText
deriving DecidableEq, Repr

namespace Writing

/-- How the objects inside a value are written. -/
def inObjects : Writing → Writing
  | .text => .json
  | writing => writing

/-- How much of the room for nesting a list takes. -/
def listCost : Writing → Nat
  | .text => 3
  | _ => 1

/-- What is going on where the room for nesting is used up, as messages say it. -/
def activity : Writing → String
  | .text => ""
  | .json => " while encoding a JSON object"
  | .message => " while getting the repr of an object"

end Writing

/-- The message for a value that cannot be written. -/
def WriteFault.message : WriteFault → String
  | .overlong =>
    "Exceeds the limit (" ++ toString Text.maxDigits ++
      " digits) for integer string conversion; " ++
      "use sys.set_int_max_str_digits() to increase the limit"
  | .tooDeep writing => "maximum recursion depth exceeded" ++ writing.activity
  | .brokenText => "surrogates not allowed"

namespace Value

/-- Whether a whole number has more digits than are written. -/
def isOverlong (n : Int) : Bool :=
  Nat.pow 10 Text.maxDigits ≤ n.natAbs

mutual

/-- The first fault that writing a value comes upon with some room for nesting. -/
def faultWithin (writing : Writing) (room : Nat) : Value → Option WriteFault
  | .int n => if isOverlong n then some .overlong else none
  | .brokenText => some .brokenText
  | .list items =>
    if room < writing.listCost then some (.tooDeep writing)
    else itemsFaultWithin writing (room - writing.listCost) items
  | .object fields =>
    if room = 0 then some (.tooDeep writing.inObjects)
    else fieldsFaultWithin writing.inObjects (room - 1) fields
  | _ => none

/-- The first fault of the items of a list. -/
def itemsFaultWithin (writing : Writing) (room : Nat) : List Value → Option WriteFault
  | [] => none
  | v :: rest => (faultWithin writing room v).or (itemsFaultWithin writing room rest)

/-- The first fault of the fields of an object. -/
def fieldsFaultWithin (writing : Writing) (room : Nat) :
    List (String × Value) → Option WriteFault
  | [] => none
  | (_, v) :: rest => (faultWithin writing room v).or (fieldsFaultWithin writing room rest)

end

/-- The room for nesting where a value is written: what the work under way leaves of the depth of
calls. -/
def writingRoom : Nat := 980

/-- The first fault that writing a value comes upon. -/
def fault? (writing : Writing) (v : Value) : Option WriteFault :=
  faultWithin writing writingRoom v

/-- Of the whole numbers, those with too many digits cannot be written. -/
theorem fault?_int (writing : Writing) (n : Int) :
    fault? writing (.int n) = if isOverlong n then some .overlong else none := rfl

/-- Texts can be written. -/
theorem fault?_str (writing : Writing) (s : String) : fault? writing (.str s) = none := rfl

/-- How a value that can be written is written. -/
def shownIn (v : Value) : Writing → String
  | .text => v.text
  | .json => Json.print Json.compact v
  | .message => v.quoted

/-- A value as it is written. -/
def written (writing : Writing) (v : Value) : Except WriteFault String :=
  (v.fault? writing).elim (.ok (v.shownIn writing)) .error

/-- A value that has no fault is written. -/
theorem written_of_none {writing : Writing} {v : Value} (h : v.fault? writing = none) :
    v.written writing = .ok (v.shownIn writing) := by
  rw [written, h, Option.elim_none]

/-- A value that has a fault is not written. -/
theorem written_of_some {writing : Writing} {v : Value} {fault : WriteFault}
    (h : v.fault? writing = some fault) : v.written writing = .error fault := by
  rw [written, h, Option.elim_some]

end Value

end UrlTemplate
