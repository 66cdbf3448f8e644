import UrlTemplate.Toml.Moment
import UrlTemplate.Toml.Number
import UrlTemplate.Toml.Quotation
import UrlTemplate.Toml.Table

/-!
# Reading TOML

`statements` reads the statements of a document up to the first fault in its syntax. A carriage
return before a line end is dropped first. A whole number of too many digits is a fault as soon as
its digits have been read, whatever follows them.
-/

namespace UrlTemplate.Toml

/-- What follows the space at the start. -/
def skipSpace (cs : List Char) : List Char :=
  cs.dropWhile isSpace

/-- What follows a comment at the start, if there is one: the line end, or nothing. -/
def skipComment? : List Char → Option (List Char)
  | '#' :: rest =>
    if (rest.takeWhile (· ≠ '\n')).all (isPlain false) then some (rest.dropWhile (· ≠ '\n'))
    else none
  | cs => some cs

/-- What follows the space, line ends and comments at the start; the fuel bounds their number. -/
def skipBlank? : (fuel : Nat) → List Char → Option (List Char)
  | 0, _ => none
  | fuel + 1, cs =>
    match cs.dropWhile isSpaceOrLineEnd with
    | '#' :: rest =>
      match skipComment? ('#' :: rest) with
      | some after => skipBlank? fuel after
      | none => none
    | rest => some rest

/-! ## Keys -/

/-- The characters of a key without quotes. -/
def isBare (c : Char) : Bool := c.isAlphanum || c = '-' || c = '_'

/-- Reads one name of a key, and skips the space after it. -/
def keyPart? (cs : List Char) : Option (String × List Char) :=
  match cs with
  | [] => none
  | c :: _ =>
    if isBare c then some (String.ofList (cs.takeWhile isBare), skipSpace (cs.dropWhile isBare))
    else (quotedLine? cs).map fun (name, rest) => (String.ofList name, skipSpace rest)

/-- Reads a dotted key, and skips the space after it; the fuel bounds the number of names. -/
def keyPath? : (fuel : Nat) → List Char → Option (Path × List Char)
  | 0, _ => none
  | fuel + 1, cs => do
    let (name, rest) ← keyPart? cs
    match rest with
    | '.' :: rest =>
      (keyPath? fuel (skipSpace rest)).map fun (names, after) => (name :: names, after)
    | rest => return ([name], rest)

/-! ## Values -/

/-- The characters of values without quotes and brackets. -/
def isWordChar (c : Char) : Bool :=
  c.isAlphanum || c = '_' || c = '+' || c = '-' || c = '.' || c = ':'

/-- The value of a moment: it has no counterpart among values and becomes a list that holds its
text. -/
def moment (written : List Char) : Value :=
  .list [.str (String.ofList written)]

/-- A value without quotes and brackets. -/
def scalar (word : List Char) : Except Fault Value :=
  if word = "true".toList then .ok (.bool true)
  else if word = "false".toList then .ok (.bool false)
  else if isDate word || isTime word then .ok (moment word)
  else
    match overlong? word with
    | some digits => .error (.overlong digits)
    | none => required (number? word)

/-- Reads a value without quotes and brackets. A date may go on with a time after one blank. -/
def scalarNext (cs : List Char) : Except Fault (Value × List Char) :=
  let word := cs.takeWhile isWordChar
  let rest := cs.dropWhile isWordChar
  match rest with
  | ' ' :: d :: more =>
    if isPlainDate word && d.isDigit then
      let time := (d :: more).takeWhile isWordChar
      if isOffsetTime time then
        .ok (moment (word ++ ' ' :: time), (d :: more).dropWhile isWordChar)
      else .error .malformed
    else (scalar word).map (·, rest)
  | _ => (scalar word).map (·, rest)

/-- How much a document may nest; an array takes less of it than a table on one line. -/
def nestingRoom : Nat := 978

/-- How much of the room for nesting an array takes. -/
def arrayRoom : Nat := 2

/-- How much of the room for nesting a table on one line takes. -/
def tableRoom : Nat := 3

mutual

/-- Reads a value; the fuel bounds depth and length, and `room` is how much the value may nest. -/
def value : (fuel room : Nat) → List Char → Except Fault (Value × List Char)
  | 0, _, _ => .error .malformed
  | fuel + 1, room, cs =>
    match cs with
    | '[' :: rest =>
      if room < arrayRoom then .error .tooDeep
      else (items fuel (room - arrayRoom) rest).map fun (items, after) => (.list items, after)
    | '{' :: rest =>
      if room < tableRoom then .error .tooDeep
      else
        match skipSpace rest with
        | '}' :: after => .ok (.object [], after)
        | rest =>
          (bindings fuel (room - tableRoom) .empty rest).map fun (table, after) =>
            (.object table.fields, after)
    | c :: _ =>
      if c = '"' || c = '\'' then
        (required (quoted? cs)).map fun (text, after) => (.str (String.ofList text), after)
      else scalarNext cs
    | [] => .error .malformed

/-- Reads the items of an array up to its end, after which a comma may be missing. -/
def items : (fuel room : Nat) → List Char → Except Fault (List Value × List Char)
  | 0, _, _ => .error .malformed
  | fuel + 1, room, cs => do
    match ← required (skipBlank? fuel cs) with
    | ']' :: after => return ([], after)
    | cs =>
      let (item, rest) ← value fuel room cs
      match ← required (skipBlank? fuel rest) with
      | ']' :: after => return ([item], after)
      | ',' :: rest => (items fuel room rest).map fun (items, after) => (item :: items, after)
      | _ => .error .malformed

/-- Reads the bindings of a table on one line up to its end, after those read already. -/
def bindings : (fuel room : Nat) → Inline → List Char → Except Fault (Inline × List Char)
  | 0, _, _, _ => .error .malformed
  | fuel + 1, room, table, cs => do
    let ((key, v), rest) ← binding fuel room cs
    let table ← required (table.bind? key v)
    match skipSpace rest with
    | '}' :: after => return (table, after)
    | ',' :: rest => bindings fuel room table (skipSpace rest)
    | _ => .error .malformed

/-- Reads a key and the value it is bound to. -/
def binding : (fuel room : Nat) → List Char → Except Fault ((Path × Value) × List Char)
  | 0, _, _ => .error .malformed
  | fuel + 1, room, cs => do
    let (key, rest) ← required (keyPath? fuel cs)
    let (v, after) ← value fuel room (skipSpace (← required (behind? '=' rest)))
    return ((key, v), after)

end

/-! ## Statements -/

/-- Reads a statement; the fuel bounds its depth and length. -/
def statement (fuel : Nat) (cs : List Char) : Except Fault (Statement × List Char) :=
  match cs with
  | '[' :: '[' :: rest => required do
    let (key, rest) ← keyPath? fuel (skipSpace rest)
    return (.element key, ← behind? ']' (← behind? ']' rest))
  | '[' :: rest => required do
    let (key, rest) ← keyPath? fuel (skipSpace rest)
    return (.table key, ← behind? ']' rest)
  | cs => do
    let ((key, v), rest) ← binding fuel nestingRoom cs
    return (.bind key v, rest)

/-- Reads the rest of a line behind a statement: space, a comment, and the line end. -/
def lineEnd? (cs : List Char) : Option (List Char) := do
  match ← skipComment? (skipSpace cs) with
  | [] => return []
  | '\n' :: rest => return rest
  | _ => none

/-- Reads a line that does not start with space: the statement on it, if there is one, and what
follows the line. The fuel bounds the depth and length of the statement. -/
def line (fuel : Nat) (cs : List Char) : List Statement × Except Fault (List Char) :=
  if cs.head? = some '\n' || cs.head? = some '#' then ([], required (lineEnd? cs))
  else
    match statement fuel cs with
    | .ok (statement, rest) => ([statement], required (lineEnd? rest))
    | .error fault => ([], .error fault)

/-- Reads lines up to the end or the first fault; the fuel bounds their number and what is on them,
for which twice the length of the text suffices. -/
def lines : (fuel : Nat) → List Char → List Statement × Option Fault
  | 0, _ => ([], some .malformed)
  | fuel + 1, cs =>
    match skipSpace cs with
    | [] => ([], none)
    | cs =>
      match line (fuel + 1) cs with
      | (found, .error fault) => (found, some fault)
      | (found, .ok rest) =>
        let (later, fault) := lines fuel rest
        (found ++ later, fault)

/-- Drops the carriage returns before line ends. -/
def plainLineEnds : List Char → List Char
  | '\r' :: '\n' :: rest => '\n' :: plainLineEnds rest
  | c :: rest => c :: plainLineEnds rest
  | [] => []

/-- The statements of a document up to its first fault, and that fault. -/
def statements (document : String) : List Statement × Option Fault :=
  let cs := plainLineEnds document.toList
  lines (2 * cs.length + 2) cs

end UrlTemplate.Toml
