import UrlTemplate.Json.Printer

/-!
# The text of a value

`Value.text` is what a value becomes inside a text: a string itself, nothing for `null`, the items
of a list separated by commas, an object as compact JSON, and a number in its usual notation.
-/

namespace UrlTemplate.Value

mutual

/-- The characters of the text of a value. -/
def textChars : Value → List Char
  | .null => []
  | .bool b => (if b then "true" else "false").toList
  | .int n => (toString n).toList
  | .float x => x.text.toList
  | .str s => s.toList
  | .brokenText => replacementText.toList
  | .list items => itemTextChars items
  | .object fields => Json.chars Json.compact (.object fields)

/-- The texts of items with commas between them. -/
def itemTextChars : List Value → List Char
  | [] => []
  | [v] => textChars v
  | v :: w :: rest => textChars v ++ ',' :: itemTextChars (w :: rest)

end

/-- The text of a value. -/
def text (v : Value) : String :=
  String.ofList (textChars v)

/-- The characters of the text of a value. -/
@[simp] theorem toList_text (v : Value) : v.text.toList = textChars v := by
  simp [text]

/-- The text of a string is the string itself. -/
@[simp] theorem text_str (s : String) : (Value.str s).text = s := by
  simp [text, textChars]

end UrlTemplate.Value
