import UrlTemplate.Double
import UrlTemplate.Text.Numeral

/-!
# Reading a floating-point number

`read?` reads a numeral as the nearest double. Besides decimals it knows the words for infinity and
for the value that is no number, in any letter case and with a sign.
-/

namespace UrlTemplate.Double

/-- The doubles that are written as words. -/
def ofWord? (negative : Bool) (word : List Char) : Option Double :=
  let word := String.ofList (word.map Char.toLower)
  if word = "inf" ∨ word = "infinity" then some (infinite negative)
  else if word = "nan" then some nan
  else none

/-- The double nearest to an unsigned decimal in plain characters, with a sign given apart. -/
def ofNumeral? (negative : Bool) (cs : List Char) : Option Double :=
  (Text.decimal? cs).map fun (digits, exponent) => ofDecimal negative digits exponent

/-- Reads a numeral or a word. -/
def read? (s : String) : Option Double := do
  let (negative, cs) := Text.splitSign (← Text.numeralChars? s)
  (ofWord? negative cs).or (ofNumeral? negative cs)

end UrlTemplate.Double
