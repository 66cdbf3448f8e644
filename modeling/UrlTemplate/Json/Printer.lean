import UrlTemplate.Double.Layout
import UrlTemplate.Text.Hex
import UrlTemplate.Value

/-!
# Writing JSON

`print` writes a value as JSON text. A `Style` says what separates items and keys and whether
characters beyond ASCII are escaped; `compact` is the style of values that enter a text, `sortText`
the text by which log entries are ordered.
-/

namespace UrlTemplate.Json

/-- The free choices of JSON text. -/
structure Style where
  /-- What stands between two items. -/
  comma : List Char
  /-- What stands between a key and its value. -/
  colon : List Char
  /-- Whether a character beyond printable ASCII is written as an escape. -/
  asciiOnly : Bool

/-- No blanks, and every character as it stands where JSON allows it. -/
def compact : Style := ⟨[','], [':'], false⟩

/-- One blank after each separator, and ASCII only. -/
def spaced : Style := ⟨[',', ' '], [':', ' '], true⟩

/-- The escape of a code in sixteen bits. -/
def unicodeEscape (code : Nat) : List Char :=
  '\\' :: 'u' :: Text.hexFixed 4 code

/-- A character inside a JSON string. Beyond sixteen bits an escape is a pair of surrogates. -/
def stringChar (asciiOnly : Bool) (c : Char) : List Char :=
  let code := c.toNat
  if c = '"' ∨ c = '\\' then ['\\', c]
  else if c = '\n' then ['\\', 'n']
  else if c = '\r' then ['\\', 'r']
  else if c = '\t' then ['\\', 't']
  else if code = 0x08 then ['\\', 'b']
  else if code = 0x0C then ['\\', 'f']
  else if code < 0x20 then unicodeEscape code
  else if !asciiOnly || code < 0x7F then [c]
  else if code < 0x10000 then unicodeEscape code
  else
    let rest := code - 0x10000
    unicodeEscape (0xD800 + rest / 0x400) ++ unicodeEscape (0xDC00 + rest % 0x400)

/-- A JSON string. -/
def stringText (style : Style) (s : String) : List Char :=
  '"' :: s.toList.flatMap (stringChar style.asciiOnly) ++ ['"']

/-- A floating-point number; infinities and the value that is no number have words of their own. -/
def floatText (x : Double) : String :=
  if x.isNaN then "NaN"
  else if x.isInfinite then (if x.isNegative then "-Infinity" else "Infinity")
  else x.text

mutual

/-- The JSON text of a value. -/
def chars (style : Style) : Value → List Char
  | .null => "null".toList
  | .bool b => (if b then "true" else "false").toList
  | .int n => (toString n).toList
  | .float x => (floatText x).toList
  | .str s => stringText style s
  | .brokenText => stringText style Value.replacementText
  | .list items => '[' :: itemChars style items ++ [']']
  | .object fields => '{' :: fieldChars style fields ++ ['}']

/-- The items of a list with separators between them. -/
def itemChars (style : Style) : List Value → List Char
  | [] => []
  | [v] => chars style v
  | v :: w :: rest => chars style v ++ style.comma ++ itemChars style (w :: rest)

/-- The fields of an object with separators between them. -/
def fieldChars (style : Style) : List (String × Value) → List Char
  | [] => []
  | [(k, v)] => stringText style k ++ style.colon ++ chars style v
  | (k, v) :: f :: rest =>
    stringText style k ++ style.colon ++ chars style v ++ style.comma
      ++ fieldChars style (f :: rest)

end

/-- The JSON text of a value in a style. -/
def print (style : Style) (v : Value) : String :=
  String.ofList (chars style v)

mutual

/-- The value with the keys of all its objects in ascending order. -/
def sortKeys : Value → Value
  | .list items => .list (sortKeysItems items)
  | .object fields => .object ((sortKeysFields fields).mergeSort (·.1 ≤ ·.1))
  | v => v

/-- The items with sorted keys. -/
def sortKeysItems : List Value → List Value
  | [] => []
  | v :: rest => sortKeys v :: sortKeysItems rest

/-- The fields, in their order, with sorted keys inside them. -/
def sortKeysFields : List (String × Value) → List (String × Value)
  | [] => []
  | (k, v) :: rest => (k, sortKeys v) :: sortKeysFields rest

end

/-- The text by which values are ordered where an order is needed: ASCII, keys ascending. -/
def sortText (v : Value) : String :=
  print spaced (sortKeys v)

end UrlTemplate.Json
