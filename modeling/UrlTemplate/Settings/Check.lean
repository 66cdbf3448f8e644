import UrlTemplate.Settings.Numeral
import UrlTemplate.Value

/-!
# Checking the values of settings

Settings come from files, from environment variables and from code, so a number or a flag may be
written as a text. A check turns a value into what a setting needs or says what is wrong with it,
and checks of several settings report all their problems together.
-/

namespace UrlTemplate

/-- What can be wrong with the value of a setting. -/
inductive Defect
  | notABoolean
  | booleanText
  | notAnInteger
  | integerText
  | integerTooLong
  | fractional
  | notFinite
  | negative
  | notAText
  | brokenText
  | notAChoice
  | notASection
deriving DecidableEq, Repr

/-- The name of a defect in reports. -/
def Defect.name : Defect → String
  | .notABoolean => "bool_type"
  | .booleanText => "bool_parsing"
  | .notAnInteger => "int_type"
  | .integerText => "int_parsing"
  | .integerTooLong => "int_parsing_size"
  | .fractional => "int_from_float"
  | .notFinite => "finite_number"
  | .negative => "greater_than_equal"
  | .notAText => "string_type"
  | .brokenText => "string_unicode"
  | .notAChoice => "literal_error"
  | .notASection => "model_type"

/-- A defect of the value at a path of names. -/
structure Problem where
  path : List String
  defect : Defect
deriving DecidableEq, Repr

/-- The result of a check: what was wanted, or all problems. -/
inductive Checked (α : Type)
  | valid (a : α)
  | invalid (problems : List Problem)
deriving DecidableEq, Repr

namespace Checked

variable {α β : Type}

/-- The problems that a check found. -/
def problems : Checked α → List Problem
  | .valid _ => []
  | .invalid ps => ps

/-- Applies a checked function to a checked argument; the problems of both are reported. -/
def apply : Checked (α → β) → Checked α → Checked β
  | .valid f, .valid a => .valid (f a)
  | f, a => .invalid (f.problems ++ a.problems)

end Checked

/-! ## Single values -/

namespace Setting

/-- The texts that mean yes, in small letters. -/
def yesTexts : List String := ["1", "on", "t", "true", "y", "yes"]

/-- The texts that mean no, in small letters. -/
def noTexts : List String := ["0", "off", "f", "false", "n", "no"]

/-- A whole number as a flag. -/
def flagOfInt (n : Int) : Except Defect Bool :=
  if n = 0 then .ok false else if n = 1 then .ok true else .error .booleanText

/-- The whole numbers that fit 64 bits with a sign. -/
def inWordRange (n : Int) : Bool := -9223372036854775808 ≤ n && n ≤ 9223372036854775807

/-- The whole numbers that fit 64 bits with a sign and are not the least of them: only these are
taken from floating-point numbers. -/
def insideWordRange (n : Int) : Bool := -9223372036854775808 < n && n ≤ 9223372036854775807

/-- A flag: a boolean, zero or one, or a word for yes or no in any letter case. -/
def flag : Value → Except Defect Bool
  | .bool b => .ok b
  | .str s =>
    let word := String.ofList (s.toList.map Char.toLower)
    if word ∈ yesTexts then .ok true
    else if word ∈ noTexts then .ok false
    else .error .booleanText
  | .brokenText => .error .brokenText
  | .int n => if inWordRange n then flagOfInt n else .error .notABoolean
  | .float x =>
    match x.whole? with
    | some n => if insideWordRange n then flagOfInt n else .error .notABoolean
    | none => .error .notABoolean
  | _ => .error .notABoolean

/-- The defect of a text that is no numeral. -/
def defectOfNumeral : Numeral.Fault → Defect
  | .malformed => .integerText
  | .tooLong => .integerTooLong

/-- A whole number: one, a boolean, a number without fraction within 64 bits, or a numeral. -/
def integer : Value → Except Defect Int
  | .int n => .ok n
  | .bool b => .ok (if b then 1 else 0)
  | .str s => (Numeral.read s).mapError defectOfNumeral
  | .brokenText => .error .brokenText
  | .float x =>
    if !x.isFinite then .error .notFinite
    else
      match x.whole? with
      | some n => if insideWordRange n then .ok n else .error .integerTooLong
      | none => .error .fractional
  | _ => .error .notAnInteger

/-- A whole number that is not negative. -/
def count (v : Value) : Except Defect Nat := do
  let n ← integer v
  if n < 0 then .error .negative else .ok n.toNat

/-- A text. -/
def text : Value → Except Defect String
  | .str s => .ok s
  | .brokenText => .error .brokenText
  | _ => .error .notAText

/-- One of some choices, by its name. -/
def choice {α : Type} (choices : List α) (name : α → String) : Value → Except Defect α
  | .str s => (choices.find? (name · = s)).elim (.error .notAChoice) .ok
  | .brokenText => .error .brokenText
  | _ => .error .notAChoice

end Setting

/-! ## Values in their places -/

namespace Fields

variable {α : Type}

/-- Checks the value of a name, which has a default. -/
def leaf (fields : Fields) (path : List String) (name : String) (default : α)
    (check : Value → Except Defect α) : Checked α :=
  match fields.lookup name with
  | none => .valid default
  | some v =>
    match check v with
    | .ok a => .valid a
    | .error defect => .invalid [⟨path ++ [name], defect⟩]

/-- Checks the section of a name, which has a default. -/
def sectionAt (fields : Fields) (path : List String) (name : String) (default : α)
    (check : Fields → List String → Checked α) : Checked α :=
  match fields.lookup name with
  | none => .valid default
  | some (.object inner) => check inner (path ++ [name])
  | some _ => .invalid [⟨path ++ [name], .notASection⟩]

end Fields

end UrlTemplate
