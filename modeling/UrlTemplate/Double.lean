/-!
# Binary floating-point numbers

A `Double` is a number of the IEEE 754 format with 53 bits of precision, held as its 64 bits. All
arithmetic here is exact: a finite number is `significand · 2 ^ exponent` with a sign, and
`ofRatio` is the one place where a number is rounded, to the nearest double and to the even one of
two equally near.
-/

namespace UrlTemplate

/-- A number of the 64-bit binary format: a sign bit, eleven bits of exponent, 52 of fraction. -/
structure Double where
  bits : UInt64
deriving DecidableEq, Repr

namespace Double

/-- The bits without the sign; they order the magnitudes. -/
def magnitude (x : Double) : Nat := x.bits.toNat % Nat.pow 2 63

/-- Whether the sign bit is set. -/
def isNegative (x : Double) : Bool := Nat.pow 2 63 ≤ x.bits.toNat

/-- The magnitude of the infinities; the magnitudes above it are no numbers. -/
def infiniteMagnitude : Nat := 2047 * Nat.pow 2 52

/-- The double with a given sign and magnitude. -/
def ofMagnitude (negative : Bool) (magnitude : Nat) : Double :=
  ⟨UInt64.ofNat (magnitude + if negative then Nat.pow 2 63 else 0)⟩

/-- Infinity of a given sign. -/
def infinite (negative : Bool) : Double := ofMagnitude negative infiniteMagnitude

/-- The value that is no number. -/
def nan : Double := ofMagnitude false (infiniteMagnitude + Nat.pow 2 51)

/-- Zero of a given sign. -/
def zero (negative : Bool) : Double := ofMagnitude negative 0

/-- Whether the value is no number. -/
def isNaN (x : Double) : Bool := infiniteMagnitude < x.magnitude

/-- Whether the value is an infinity. -/
def isInfinite (x : Double) : Bool := x.magnitude = infiniteMagnitude

/-- Whether the value is a number and no infinity. -/
def isFinite (x : Double) : Bool := x.magnitude < infiniteMagnitude

/-- Whether the value is zero of either sign. -/
def isZero (x : Double) : Bool := x.magnitude = 0

/-- The exponent bits of a finite number. -/
def exponentField (x : Double) : Nat := x.magnitude / Nat.pow 2 52

/-- The whole number that, times `2 ^ exponent`, is the magnitude of a finite number. -/
def significand (x : Double) : Nat :=
  if x.exponentField = 0 then x.magnitude else Nat.pow 2 52 + x.magnitude % Nat.pow 2 52

/-- The power of two that goes with `significand`. -/
def exponent (x : Double) : Int :=
  if x.exponentField = 0 then -1074 else (x.exponentField : Int) - 1075

/-- The quotient rounded to the nearest whole number, to the even one of two equally near. -/
def divNearest (num den : Nat) : Nat :=
  let floor := num / den
  let rest := 2 * (num % den)
  if rest > den ∨ (rest = den ∧ floor % 2 = 1) then floor + 1 else floor

/-- `num / den` in units of `2 ^ e`, as a quotient of whole numbers. -/
def inUnits (num den : Nat) (e : Int) : Nat × Nat :=
  if 0 ≤ e then (num, den * Nat.pow 2 e.toNat) else (num * Nat.pow 2 (-e).toNat, den)

/-- The double nearest to `num / den`. Its unit in the last place is the power of two that leaves
53 bits of the quotient, and never less than the least double. -/
def ofRatio (negative : Bool) (num den : Nat) : Double :=
  if num = 0 ∨ den = 0 then zero negative
  else
    let guess : Int := max ((num.log2 : Int) - den.log2 - 53) (-1074)
    let (n, d) := inUnits num den guess
    let e := if n / d < Nat.pow 2 53 then guess else guess + 1
    let (n, d) := inUnits num den e
    let magnitude := (e + 1074).toNat * Nat.pow 2 52 + divNearest n d
    if magnitude < infiniteMagnitude then ofMagnitude negative magnitude else infinite negative

/-- The double nearest to a whole number, if that is finite. -/
def ofInt? (n : Int) : Option Double :=
  let x := ofRatio (n < 0) n.natAbs 1
  if x.isFinite then some x else none

/-- The double nearest to `digits · 10 ^ exponent`. Numbers far outside the range are settled by
their order of magnitude. -/
def ofDecimal (negative : Bool) (digits : Nat) (exponent : Int) : Double :=
  let order : Int := (digits.log2 : Int) / 4 + exponent
  if digits = 0 ∨ order + (digits.log2 : Int) / 4 + 2 < -400 then zero negative
  else if 400 < order then infinite negative
  else if 0 ≤ exponent then ofRatio negative (digits * Nat.pow 10 exponent.toNat) 1
  else ofRatio negative digits (Nat.pow 10 (-exponent).toNat)

/-- The number without its fractional part, if it is finite. -/
def truncate? (x : Double) : Option Int :=
  if x.isFinite then
    let size := if 0 ≤ x.exponent then x.significand * Nat.pow 2 x.exponent.toNat
      else x.significand / Nat.pow 2 (-x.exponent).toNat
    some (if x.isNegative then -(size : Int) else size)
  else none

/-- The value of a finite number that has no fractional part. -/
def whole? (x : Double) : Option Int :=
  if 0 ≤ x.exponent ∨ x.significand % Nat.pow 2 (-x.exponent).toNat = 0 then x.truncate?
  else none

end Double

end UrlTemplate
