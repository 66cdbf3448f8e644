import UrlTemplate.Double.Reader
import UrlTemplate.Entries
import UrlTemplate.Text.Hex
import UrlTemplate.Value

/-!
# Reading JSON

`read` reads one JSON value with blanks around it, which may nest only so deep, and `parse?` one of
any depth. A number without point and exponent is a whole number, which may have as many digits as
`Text.maxDigits`. The words `NaN`, `Infinity` and `-Infinity` are numbers too. Of two fields with
one key the later value counts, in the place of the first.
-/

namespace UrlTemplate.Json

/-- Why a text is not read as JSON. -/
inductive Fault
  | malformed
  /-- An object or a list begins where no deeper nesting is allowed. -/
  | tooDeep (object : Bool)
deriving DecidableEq, Repr

/-- What a reader finds, where finding nothing is a fault of the text. -/
def required {α : Type} (found : Option α) : Except Fault α :=
  found.elim (.error .malformed) .ok

/-- The blanks between the tokens of JSON. -/
def isBlank (c : Char) : Bool :=
  c = ' ' || c = '\t' || c = '\n' || c = '\r'

/-- What follows the blanks at the start. -/
def skipBlanks (cs : List Char) : List Char :=
  cs.dropWhile isBlank

/-- Reads four hexadecimal digits. -/
def hex4? : List Char → Option (Nat × List Char)
  | a :: b :: c :: d :: rest => do
    let digits := [← Text.hexValue? a, ← Text.hexValue? b, ← Text.hexValue? c, ← Text.hexValue? d]
    return (digits.foldl (fun n digit => 16 * n + digit) 0, rest)
  | _ => none

/-- The character for the mark after a backslash, if it is one of the short escapes. -/
def shortEscape? : Char → Option Char
  | '"' => some '"'
  | '\\' => some '\\'
  | '/' => some '/'
  | 'b' => some '\x08'
  | 'f' => some '\x0c'
  | 'n' => some '\n'
  | 'r' => some '\r'
  | 't' => some '\t'
  | _ => none

/-- Whether a sixteen-bit code is the first half of a surrogate pair. -/
def isHighSurrogate (code : Nat) : Bool := 0xD800 ≤ code && code < 0xDC00

/-- Whether a sixteen-bit code is the second half of a surrogate pair. -/
def isLowSurrogate (code : Nat) : Bool := 0xDC00 ≤ code && code < 0xE000

/-- The character of a sixteen-bit code, and of the one that follows if both form a pair; half of a
pair alone is no character. -/
def unicodeChar (code : Nat) (rest : List Char) : Option Char × List Char :=
  let alone :=
    (if isHighSurrogate code || isLowSurrogate code then none else some (Char.ofNat code), rest)
  if isHighSurrogate code then
    match rest with
    | '\\' :: 'u' :: digits =>
      match hex4? digits with
      | some (low, after) =>
        if isLowSurrogate low then
          (some (Char.ofNat (0x10000 + (code - 0xD800) * 0x400 + (low - 0xDC00))), after)
        else alone
      | none => alone
    | _ => alone
  else alone

/-- Reads the characters of a string up to the closing quote; `none` among them stands for half of a
surrogate pair. The fuel bounds their number. -/
def stringBody? : (fuel : Nat) → List Char → Option (List (Option Char) × List Char)
  | 0, _ => none
  | _ + 1, [] => none
  | fuel + 1, c :: rest =>
    let go (c : Option Char) (rest : List Char) :=
      (stringBody? fuel rest).map fun (s, after) => (c :: s, after)
    if c = '"' then some ([], rest)
    else if c.toNat < 0x20 then none
    else if c ≠ '\\' then go (some c) rest
    else
      match rest with
      | 'u' :: digits => do
        let (code, after) ← hex4? digits
        let (char, after) := unicodeChar code after
        go char after
      | mark :: after => do go (some (← shortEscape? mark)) after
      | [] => none

/-- The value of a string. -/
def stringValue (cs : List (Option Char)) : Value :=
  match cs.mapM id with
  | some cs => .str (String.ofList cs)
  | none => .brokenText

/-- The key that a string is, what is no character being replaced. -/
def stringKey (cs : List (Option Char)) : String :=
  String.ofList (cs.flatMap fun c => (c.map fun c => [c]).getD Value.replacementText.toList)

/-- The fraction of a number: empty unless a point with a digit after it comes first. -/
def takeFraction : List Char → List Char × List Char
  | '.' :: d :: rest =>
    if d.isDigit then (d :: rest.takeWhile Char.isDigit, rest.dropWhile Char.isDigit)
    else ([], '.' :: d :: rest)
  | cs => ([], cs)

/-- The exponent of a number, if a complete one comes first. -/
def takeExponent? : List Char → Option (Int × List Char)
  | c :: rest => do
    if c ≠ 'e' ∧ c ≠ 'E' then none
    let (negative, rest) := Text.splitSign rest
    let n ← Text.natural? (rest.takeWhile Char.isDigit)
    return (if negative then -(n : Int) else n, rest.dropWhile Char.isDigit)
  | [] => none

/-- The whole digits of a number: a zero alone, or digits that do not start with zero. -/
def takeWhole : List Char → List Char × List Char
  | '0' :: rest => (['0'], rest)
  | cs => (cs.takeWhile Char.isDigit, cs.dropWhile Char.isDigit)

/-- Reads an unsigned number: whole if neither fraction nor exponent follows its digits. -/
def unsigned? (negative : Bool) (cs : List Char) : Option (Value × List Char) := do
  let (whole, rest) := takeWhole cs
  let n ← Text.natural? whole
  let (fraction, rest) := takeFraction rest
  let digits ← Text.natural? (whole ++ fraction)
  match takeExponent? rest with
  | some (e, after) => return (.float (.ofDecimal negative digits (e - fraction.length)), after)
  | none =>
    if fraction ≠ [] then
      return (.float (.ofDecimal negative digits (-fraction.length)), rest)
    else if Text.maxDigits < whole.length then none
    else return (.int (if negative then -(n : Int) else n), rest)

/-- The values that are written as words. -/
def words : List (String × Value) := [
  ("null", .null), ("true", .bool true), ("false", .bool false), ("NaN", .float .nan),
  ("Infinity", .float (.infinite false)), ("-Infinity", .float (.infinite true))]

/-- Reads one of the words. -/
def word? (cs : List Char) : Option (Value × List Char) :=
  words.findSome? fun (word, v) =>
    if word.toList.isPrefixOf cs then some (v, cs.drop word.length) else none

mutual

/-- Reads a value at the start of the text; no blank precedes it. The fuel bounds the depth, the
number of items and the length of strings, for which twice the length of the text suffices; `room`
is how deep the value may nest. -/
def value : (fuel room : Nat) → List Char → Except Fault (Value × List Char)
  | 0, _, _ => .error .malformed
  | fuel + 1, room, cs =>
    match cs, room with
    | '"' :: rest, _ =>
      (required (stringBody? fuel rest)).map fun (s, after) => (stringValue s, after)
    | '[' :: _, 0 => .error (.tooDeep false)
    | '[' :: rest, room + 1 =>
      match skipBlanks rest with
      | ']' :: after => .ok (.list [], after)
      | rest => (items fuel room rest).map fun (items, after) => (.list items, after)
    | '{' :: _, 0 => .error (.tooDeep true)
    | '{' :: rest, room + 1 =>
      match skipBlanks rest with
      | '}' :: after => .ok (.object [], after)
      | rest => (fields fuel room [] rest).map fun (fields, after) => (.object fields, after)
    | _, _ => required <|
      match word? cs, cs with
      | some found, _ => some found
      | none, '-' :: rest => unsigned? true rest
      | none, rest => unsigned? false rest

/-- Reads the items of a list up to its end. -/
def items : (fuel room : Nat) → List Char → Except Fault (List Value × List Char)
  | 0, _, _ => .error .malformed
  | fuel + 1, room, cs => do
    let (v, rest) ← value fuel room cs
    match skipBlanks rest with
    | ',' :: rest => (items fuel room (skipBlanks rest)).map fun (vs, after) => (v :: vs, after)
    | ']' :: after => .ok ([v], after)
    | _ => .error .malformed

/-- Reads the fields of an object up to its end, after those read already. -/
def fields : (fuel room : Nat) → Fields → List Char → Except Fault (Fields × List Char)
  | 0, _, _, _ => .error .malformed
  | fuel + 1, room, before, cs =>
    match cs with
    | '"' :: rest => do
      let (key, rest) ← required (stringBody? fuel rest)
      match skipBlanks rest with
      | ':' :: rest => do
        let (v, rest) ← value fuel room (skipBlanks rest)
        let known := Entries.put before (stringKey key) v
        match skipBlanks rest with
        | ',' :: rest => fields fuel room known (skipBlanks rest)
        | '}' :: after => .ok (known, after)
        | _ => .error .malformed
      | _ => .error .malformed
    | _ => .error .malformed

end

/-- The value that a text is the JSON of, with `room` for nesting. -/
def read (room : Nat) (s : String) : Except Fault Value := do
  let cs := s.toList
  let (v, rest) ← value (2 * cs.length + 2) room (skipBlanks cs)
  if (skipBlanks rest).isEmpty then .ok v else .error .malformed

/-- The value that a text is the JSON of. -/
def parse? (s : String) : Option Value :=
  (read s.length s).toOption

end UrlTemplate.Json
