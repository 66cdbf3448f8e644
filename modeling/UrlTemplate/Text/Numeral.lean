import UrlTemplate.Text.Blank
import UrlTemplate.Text.Digit

/-!
# Numerals

The written forms of numbers that people type: surrounding blanks, a sign, digits of any script,
single underscores between digits, and for decimals a point and an exponent. `readInt` reads a
whole number; `decimal?` reads the digits and the power of ten of an unsigned decimal in ASCII.
-/

namespace UrlTemplate.Text

/-- The characters that may surround a numeral: blanks without the information separators. -/
def isNumeralBlank (c : Char) : Bool :=
  isBlank c && !(0x1C ≤ c.toNat && c.toNat ≤ 0x1F)

/-- A digit of any script as the ASCII digit of its value. -/
def plainDigit (c : Char) : Char :=
  match digitValue? c with
  | some value => Char.ofNat ('0'.toNat + value)
  | none => c

/-- Removes underscores, each of which must stand between two digits; `previous` tells whether a
digit came just before. -/
def dropUnderscores? (previous : Bool) : List Char → Option (List Char)
  | [] => some []
  | '_' :: next :: rest =>
    if previous && next.isDigit then dropUnderscores? false (next :: rest) else none
  | c :: rest => if c = '_' then none else (dropUnderscores? c.isDigit rest).map (c :: ·)

/-- The sign in front of a numeral: whether it is negative, and what follows. -/
def splitSign : List Char → Bool × List Char
  | '-' :: rest => (true, rest)
  | '+' :: rest => (false, rest)
  | cs => (false, cs)

/-- The plain characters of a numeral; `none` if an underscore is misplaced. -/
def numeralChars? (s : String) : Option (List Char) :=
  dropUnderscores? false (stripWhile isNumeralBlank (s.toList.map plainDigit))

/-- The number that a run of ASCII digits stands for; `none` for any other text. -/
def natural? (cs : List Char) : Option Nat :=
  if cs = [] then none else (cs.mapM asciiDigit?).map ofDigits

/-- Why a text is no whole number. -/
inductive IntFault
  | malformed
  /-- The number has more digits than are read. -/
  | overlong (digits : Nat)
deriving DecidableEq, Repr

/-- The most digits of a whole number that are read. -/
def maxDigits : Nat := 4300

/-- The message for a whole number of too many digits. -/
def overlongMessage (digits : Nat) : String :=
  "Exceeds the limit (" ++ toString maxDigits ++ " digits) for integer string conversion: " ++
    "value has " ++ toString digits ++
    " digits; use sys.set_int_max_str_digits() to increase the limit"

/-- Reads a whole number in base ten. Too many digits are too many whatever follows them. -/
def readInt (s : String) : Except IntFault Int :=
  let (negative, cs) := splitSign (stripWhile isNumeralBlank (s.toList.map plainDigit))
  let run := cs.takeWhile fun c => c.isDigit || c = '_'
  match dropUnderscores? false run with
  | none => .error .malformed
  | some digits =>
    if maxDigits < digits.length then .error (.overlong digits.length)
    else if run.length < cs.length then .error .malformed
    else
      match natural? digits with
      | some n => .ok (if negative then -(n : Int) else n)
      | none => .error .malformed

/-- Reads the exponent of a decimal; no text is the exponent zero. -/
def decimalExponent? : List Char → Option Int
  | [] => some 0
  | c :: rest => do
    if c ≠ 'e' ∧ c ≠ 'E' then none
    let (negative, digits) := splitSign rest
    let n ← natural? digits
    return if negative then -(n : Int) else n

/-- Reads digits with an optional point among or beside them and an optional exponent: the number
is the first component times ten to the power of the second. -/
def decimal? (cs : List Char) : Option (Nat × Int) := do
  let whole := cs.takeWhile Char.isDigit
  let rest := cs.dropWhile Char.isDigit
  let (fraction, rest) := match rest with
    | '.' :: rest => (rest.takeWhile Char.isDigit, rest.dropWhile Char.isDigit)
    | _ => ([], rest)
  let digits ← natural? (whole ++ fraction)
  let exponent ← decimalExponent? rest
  return (digits, exponent - fraction.length)

end UrlTemplate.Text
