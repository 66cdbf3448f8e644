import UrlTemplate.Text.Hex
import UrlTemplate.Text.Printable

/-!
# Quoted text in messages

Messages show a text between quotes, with a backslash escape for the quote itself, the backslash,
the three common controls and every character that is not printable. The quotes are single unless
the text holds a single quote and no double quote.
-/

namespace UrlTemplate.Text

/-- The quote that surrounds a text in a message. -/
def quoteFor (cs : List Char) : Char :=
  if '\'' ∈ cs ∧ '"' ∉ cs then '"' else '\''

/-- A character inside quoted text; the escape of an unprintable one is as short as its code
allows. -/
def quoteChar (quote c : Char) : List Char :=
  if c = quote ∨ c = '\\' then ['\\', c]
  else if c = '\t' then ['\\', 't']
  else if c = '\n' then ['\\', 'n']
  else if c = '\r' then ['\\', 'r']
  else if isPrintable c then [c]
  else if c.toNat < 0x100 then '\\' :: 'x' :: hexFixed 2 c.toNat
  else if c.toNat < 0x10000 then '\\' :: 'u' :: hexFixed 4 c.toNat
  else '\\' :: 'U' :: hexFixed 8 c.toNat

/-- The text as messages show it. -/
def quoted (s : String) : String :=
  let cs := s.toList
  let quote := quoteFor cs
  String.ofList (quote :: cs.flatMap (quoteChar quote) ++ [quote])

end UrlTemplate.Text
