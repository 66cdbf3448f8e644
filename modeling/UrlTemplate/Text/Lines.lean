/-!
# Line ends

The characters that end a line, and the number of lines that they end in a text. A carriage return
with a line feed behind it ends one line.
-/

namespace UrlTemplate.Text

/-- The ends of lines, paragraphs and pages, and the separators of files, groups and records. -/
def isLineEnd (c : Char) : Bool :=
  let code := c.toNat
  (0x0A ≤ code && code ≤ 0x0D) || (0x1C ≤ code && code ≤ 0x1E) || code == 0x85 || code == 0x2028
    || code == 0x2029

/-- How many lines end in a text. -/
def lineEnds : List Char → Nat
  | [] => 0
  | '\r' :: '\n' :: rest => 1 + lineEnds rest
  | c :: rest => (if isLineEnd c then 1 else 0) + lineEnds rest

end UrlTemplate.Text
