import UrlTemplate.Double.Shortest

/-!
# The text of a floating-point number

Numbers are written with their shortest digits. `Layout` holds the decisions of the format: from
which power of ten up to which one the point is written in place, and how wide an exponent is.
-/

namespace UrlTemplate.Double

/-- How numbers are written. -/
structure Layout where
  /-- The least power of ten of the first digit that is written without exponent. -/
  leastPositional : Int
  /-- The first power of ten of the first digit that is written with exponent. -/
  firstScientific : Int
  /-- The least count of digits of an exponent. -/
  exponentWidth : Nat

/-- Values are written positionally from 0.0001 up to 10^16, with an exponent of at least two digits
and its sign beyond. -/
def valueLayout : Layout := ⟨-4, 16, 2⟩

/-- Decimal digits, at least `width` of them. -/
def paddedDigits (width n : Nat) : List Char :=
  let digits := Nat.toDigits 10 n
  List.replicate (width - digits.length) '0' ++ digits

/-- The digits with a point after the first `whole` of them; `.0` follows a whole number. -/
def positional (digits : List Char) (whole : Int) : List Char :=
  if whole ≤ 0 then '0' :: '.' :: List.replicate (-whole).toNat '0' ++ digits
  else
    let count := whole.toNat
    if digits.length ≤ count then
      digits ++ List.replicate (count - digits.length) '0' ++ ['.', '0']
    else digits.take count ++ '.' :: digits.drop count

/-- The digits with a point after the first one, if there are others, and the power of ten. -/
def scientific (width : Nat) (digits : List Char) (power : Int) : List Char :=
  let mantissa := match digits with
    | [] => []
    | [d] => [d]
    | d :: ds => d :: '.' :: ds
  let sign := if power < 0 then '-' else '+'
  mantissa ++ 'e' :: sign :: paddedDigits width power.natAbs

/-- The magnitude of a finite number. -/
def magnitudeText (how : Layout) (x : Double) : List Char :=
  if x.isZero then ['0', '.', '0']
  else
    let (n, g) := x.shortest
    let digits := Nat.toDigits 10 n
    let power := g + digits.length - 1
    if how.leastPositional ≤ power ∧ power < how.firstScientific then
      positional digits (power + 1)
    else scientific how.exponentWidth digits power

/-- The text of a number, infinities and the value that is no number included. -/
def text (x : Double) : String :=
  let sign := if x.isNegative then ['-'] else []
  if x.isNaN then "nan"
  else if x.isInfinite then String.ofList (sign ++ ['i', 'n', 'f'])
  else String.ofList (sign ++ magnitudeText valueLayout x)

end UrlTemplate.Double
