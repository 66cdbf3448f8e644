import UrlTemplate.Double.Reader
import UrlTemplate.Text.Hex
import UrlTemplate.Toml.Syntax

/-!
# Numbers in TOML

Whole numbers are decimal, or hexadecimal, octal or binary without a sign; floating-point numbers
have a fraction, an exponent or both, or are words. Underscores may stand between digits, and a
decimal starts with zero only if zero is all of its whole part. Decimal whole numbers of too many
digits are not read: `overlong?` finds them at the start of a text.
-/

namespace UrlTemplate.Toml

/-- The digits without the underscores between them; `none` if an underscore is misplaced or there
is no digit. -/
def separated? (isDigit : Char → Bool) : List Char → Option (List Char)
  | [] => none
  | [c] => if isDigit c then some [c] else none
  | c :: '_' :: rest =>
    if isDigit c then (separated? isDigit rest).map (c :: ·) else none
  | c :: rest => if isDigit c then (separated? isDigit rest).map (c :: ·) else none

/-- The number that digits of a base stand for. -/
def inBase? (base : Nat) (cs : List Char) : Option Nat := do
  let isDigit (c : Char) : Bool := (Text.hexValue? c).any (· < base)
  let digits ← (← separated? isDigit cs).mapM Text.hexValue?
  return digits.foldl (fun n d => base * n + d) 0

/-- The whole part of a decimal: zero, or digits that do not start with zero. -/
def wholePart? (cs : List Char) : Option (List Char) :=
  match cs with
  | ['0'] => some cs
  | '0' :: _ => none
  | _ => separated? Char.isDigit cs

/-- The characters of an exponent behind its letter. -/
def exponentPart? (cs : List Char) : Option (List Char) :=
  match cs with
  | [] => none
  | c :: rest =>
    if c = '+' ∨ c = '-' then (separated? Char.isDigit rest).map (c :: ·)
    else separated? Char.isDigit cs

/-- Whether a letter introduces an exponent. -/
def isExponentMark (c : Char) : Bool := c = 'e' || c = 'E'

/-- A fraction with an optional exponent, without its point. -/
def fractionPart? (cs : List Char) : Option (List Char) :=
  let digits := cs.takeWhile (!isExponentMark ·)
  match cs.dropWhile (!isExponentMark ·) with
  | [] => separated? Char.isDigit digits
  | _ :: exponent => do
    return (← separated? Char.isDigit digits) ++ 'e' :: (← exponentPart? exponent)

/-- An unsigned decimal: whole if it has neither fraction nor exponent. -/
def decimal? (negative : Bool) (cs : List Char) : Option Value :=
  let isMark (c : Char) : Bool := c = '.' || isExponentMark c
  match wholePart? (cs.takeWhile (!isMark ·)), cs.dropWhile (!isMark ·) with
  | none, _ => none
  | some whole, [] => do
    let n ← Text.natural? whole
    return .int (if negative then -(n : Int) else n)
  | some whole, mark :: rest => do
    let tail ← if mark = '.' then (fractionPart? rest).map ('.' :: ·)
      else (exponentPart? rest).map ('e' :: ·)
    return .float (← Double.ofNumeral? negative (whole ++ tail))

/-- The words for numbers that have no digits. -/
def word? (negative : Bool) (cs : List Char) : Option Value :=
  if cs = ['i', 'n', 'f'] then some (.float (.infinite negative))
  else if cs = ['n', 'a', 'n'] then some (.float .nan)
  else none

/-- Whether a fraction or an exponent begins here. -/
def startsFloat : List Char → Bool
  | '.' :: d :: _ => d.isDigit
  | mark :: sign :: d :: _ =>
    isExponentMark mark && (sign.isDigit || ((sign = '+' || sign = '-') && d.isDigit))
  | [mark, d] => isExponentMark mark && d.isDigit
  | _ => false

/-- The digits at the start, with single underscores between them, and what follows. -/
def digitRun (previous : Bool) : List Char → List Char × List Char
  | '_' :: d :: rest =>
    if previous && d.isDigit then
      let (digits, after) := digitRun true rest
      (d :: digits, after)
    else ([], '_' :: d :: rest)
  | c :: rest =>
    if c.isDigit then
      let (digits, after) := digitRun true rest
      (c :: digits, after)
    else ([], c :: rest)
  | [] => ([], [])

/-- The number of digits of the decimal whole number that a text starts with, if they are too many
to be read. -/
def overlong? (cs : List Char) : Option Nat :=
  let (digits, after) := digitRun false (Text.splitSign cs).2
  if digits.head? ≠ some '0' ∧ Text.maxDigits < digits.length ∧ !startsFloat after then
    some digits.length
  else none

/-- The number that a whole text stands for. -/
def number? (cs : List Char) : Option Value :=
  match cs with
  | '0' :: 'x' :: digits => (inBase? 16 digits).map fun n => .int n
  | '0' :: 'o' :: digits => (inBase? 8 digits).map fun n => .int n
  | '0' :: 'b' :: digits => (inBase? 2 digits).map fun n => .int n
  | _ =>
    let (negative, rest) := Text.splitSign cs
    (word? negative rest).or (decimal? negative rest)

end UrlTemplate.Toml
