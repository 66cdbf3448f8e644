import UrlTemplate.Text.Hex
import UrlTemplate.Text.Split

/-!
# Quoted text in TOML

Basic text stands between double quotes and has escapes, literal text stands between single quotes
and has none; tripled quotes allow line ends. Every reader here starts behind the opening quote and
answers with the text and what follows the closing quote. Controls are refused, tabs apart.
-/

namespace UrlTemplate.Toml

/-- The characters between tokens on a line. -/
def isSpace (c : Char) : Bool := c = ' ' || c = '\t'

/-- The characters between tokens where lines may end. -/
def isSpaceOrLineEnd (c : Char) : Bool := isSpace c || c = '\n'

/-- Controls, which only escapes may put into a text. -/
def isControl (c : Char) : Bool := (c.toNat < 0x20 && c ≠ '\t') || c.toNat = 0x7F

/-- Whether a text may hold the character as it stands. -/
def isPlain (multiline : Bool) (c : Char) : Bool :=
  !isControl c || (multiline && c = '\n')

/-- The character for the mark after a backslash. -/
def escapeChar? : Char → Option Char
  | 'b' => some '\x08'
  | 't' => some '\t'
  | 'n' => some '\n'
  | 'f' => some '\x0c'
  | 'r' => some '\r'
  | '"' => some '"'
  | '\\' => some '\\'
  | _ => none

/-- Reads the character whose code is written with a fixed count of hexadecimal digits. -/
def codedChar? (width : Nat) (cs : List Char) : Option (Char × List Char) := do
  let digits ← (cs.take width).mapM Text.hexValue?
  let code := digits.foldl (fun n d => 16 * n + d) 0
  if digits.length = width ∧ code.isValidChar then return (Char.ofNat code, cs.drop width)
  else none

/-- Reads what follows a backslash: the characters it stands for and the rest. In a text of several
lines a backslash at the end of a line removes the line end and all space up to the next word. -/
def escape? (multiline : Bool) : List Char → Option (List Char × List Char)
  | [] => none
  | c :: rest =>
    if multiline && isSpaceOrLineEnd c then
      match (c :: rest).dropWhile isSpace with
      | '\n' :: after => some ([], after.dropWhile isSpaceOrLineEnd)
      | _ => none
    else if c = 'u' then (codedChar? 4 rest).map fun (char, after) => ([char], after)
    else if c = 'U' then (codedChar? 8 rest).map fun (char, after) => ([char], after)
    else (escapeChar? c).map fun char => ([char], rest)

/-- Reads basic text up to its closing quotes; the fuel bounds its length. -/
def basic? (multiline : Bool) : (fuel : Nat) → List Char → Option (List Char × List Char)
  | 0, _ => none
  | _ + 1, [] => none
  | fuel + 1, c :: rest =>
    let go (read rest : List Char) :=
      (basic? multiline fuel rest).map fun (text, after) => (read ++ text, after)
    if c = '"' then
      if multiline then
        match rest with
        | '"' :: '"' :: after => some ([], after)
        | _ => go [c] rest
      else some ([], rest)
    else if c = '\\' then
      match escape? multiline rest with
      | some (read, after) => go read after
      | none => none
    else if isPlain multiline c then go [c] rest
    else none

/-- Reads literal text of several lines up to the tripled quote. -/
def literalLines? : List Char → Option (List Char × List Char)
  | [] => none
  | '\'' :: '\'' :: '\'' :: after => some ([], after)
  | c :: rest =>
    if isPlain true c then (literalLines? rest).map fun (text, after) => (c :: text, after)
    else none

/-- Reads literal text on one line up to the quote. -/
def literal? (cs : List Char) : Option (List Char × List Char) := do
  let (text, after) ← Text.cutAt? '\'' cs
  if text.all (isPlain false) then return (text, after) else none

/-- Up to two quotes that follow the closing quotes of a text of several lines belong to it. -/
def withTrailingQuotes (quote : Char) : List Char × List Char → List Char × List Char
  | (text, a :: b :: rest) =>
    if a = quote then
      if b = quote then (text ++ [a, b], rest) else (text ++ [a], b :: rest)
    else (text, a :: b :: rest)
  | (text, [a]) => if a = quote then (text ++ [a], []) else (text, [a])
  | (text, []) => (text, [])

/-- A line end right behind opening tripled quotes is no part of the text. -/
def dropFirstLineEnd : List Char → List Char
  | '\n' :: rest => rest
  | cs => cs

/-- Reads a quoted text on one line, with its opening quote. -/
def quotedLine? : List Char → Option (List Char × List Char)
  | '"' :: rest => basic? false (rest.length + 1) rest
  | '\'' :: rest => literal? rest
  | _ => none

/-- Reads a quoted text of any form, with its opening quotes. -/
def quoted? : List Char → Option (List Char × List Char)
  | '"' :: '"' :: '"' :: rest =>
    (basic? true (rest.length + 1) (dropFirstLineEnd rest)).map (withTrailingQuotes '"')
  | '\'' :: '\'' :: '\'' :: rest =>
    (literalLines? (dropFirstLineEnd rest)).map (withTrailingQuotes '\'')
  | cs => quotedLine? cs

end UrlTemplate.Toml
