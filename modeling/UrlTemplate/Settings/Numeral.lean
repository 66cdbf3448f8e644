import UrlTemplate.Text.Numeral

/-!
# Whole numbers written in settings

A numeral may be written with some freedom: blanks around it, a sign in front, zeros in front of the
number, single underscores among its digits, and a fraction of nothing but zeros. `plain?` takes the
freedom away, one kind after the other, and `plainInteger?` reads what is left, which has none: a
minus if the number is negative, and digits that do not start with zero unless zero is all of them.

Only `Text.maxDigits` digits are read. A text that has too many and no freedom in front of them is
called too long; every other text that is not read is malformed.
-/

namespace UrlTemplate.Numeral

/-- Why a text is no numeral. -/
inductive Fault
  | malformed
  | tooLong
deriving DecidableEq, Repr

/-- Whether digits that do not start with zero may begin here, or the minus in front of them. -/
def startsNumber (c : Char) : Bool :=
  c = '-' || ('1' ≤ c && c ≤ '9')

/-- The characters behind zeros, which underscores may separate. The last of the skipped characters
stays where nothing or a point follows it. -/
def behindZeros? (last : Char) : List Char → Option (List Char)
  | [] => some [last]
  | c :: rest =>
    if c = '0' || c = '_' then behindZeros? c rest
    else if startsNumber c then some (c :: rest)
    else if c = '.' then some (last :: c :: rest)
    else none

/-- The characters without the zeros in front of the number. -/
def withoutZeros? : List Char → Option (List Char)
  | [] => none
  | c :: rest =>
    if c = '0' then behindZeros? c rest
    else if startsNumber c then some (c :: rest)
    else none

/-- The characters without a fraction of nothing but zeros. -/
def withoutZeroFraction (cs : List Char) : List Char :=
  let fraction := (cs.dropWhile (· ≠ '.')).drop 1
  if fraction ≠ [] ∧ fraction.all (· = '0') then cs.takeWhile (· ≠ '.') else cs

/-- Whether two underscores stand side by side. -/
def hasDoubleUnderscore : List Char → Bool
  | a :: b :: rest => (a = '_' && b = '_') || hasDoubleUnderscore (b :: rest)
  | _ => false

/-- The characters without underscores; none is removed if one stands at an end or two stand side by
side. -/
def withoutUnderscores (cs : List Char) : List Char :=
  if cs.head? = some '_' ∨ cs.getLast? = some '_' ∨ hasDoubleUnderscore cs then cs
  else cs.filter (· ≠ '_')

/-- The characters of a numeral behind its sign, without the freedom that they were written with. -/
def unsigned? (cs : List Char) : Option (List Char) :=
  (withoutZeros? cs).map fun rest => withoutUnderscores (withoutZeroFraction rest)

/-- The characters of a numeral without the freedom that it was written with. A plus is left out,
and no minus may follow it. -/
def plain? (cs : List Char) : Option (List Char) :=
  match Text.stripWhile Text.isNumeralBlank cs with
  | '-' :: rest => (unsigned? rest).map ('-' :: ·)
  | '+' :: '-' :: _ => none
  | '+' :: rest => unsigned? rest
  | cs => unsigned? cs

/-- The number of some digits that do not start with zero unless zero is all of them. -/
def digits? (cs : List Char) : Option Nat :=
  if (cs.head? = some '0' ∧ cs ≠ ['0']) ∨ Text.maxDigits < cs.length then none
  else Text.natural? cs

/-- Reads a whole number that is written without freedom. -/
def plainInteger? : List Char → Option Int
  | '-' :: rest => (digits? rest).map fun n => -(n : Int)
  | cs => (digits? cs).map fun n => (n : Int)

/-- Whether a text starts with too many digits, a minus in front of them or not. Digits that start
with zero are none of a number that is written without freedom. -/
def isTooLong (cs : List Char) : Bool :=
  let run := (if cs.head? = some '-' then cs.drop 1 else cs).takeWhile Char.isDigit
  run.head? ≠ some '0' && Text.maxDigits < run.length

/-- Reads a numeral. -/
def read (s : String) : Except Fault Int :=
  if isTooLong s.toList then .error .tooLong
  else ((plain? s.toList).bind plainInteger?).elim (.error .malformed) .ok

end UrlTemplate.Numeral
