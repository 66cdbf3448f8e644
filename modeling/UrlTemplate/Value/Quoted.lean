import UrlTemplate.Double.Layout
import UrlTemplate.Text.Quoted
import UrlTemplate.Value

/-!
# Values in messages

`Value.quoted` shows a value inside a message: texts in quotes, lists in brackets, objects in
braces, and the words of the message language for `null` and the booleans.
-/

namespace UrlTemplate.Value

mutual

/-- The characters of a value in a message. -/
def quotedChars : Value → List Char
  | .null => "None".toList
  | .bool b => (if b then "True" else "False").toList
  | .int n => (toString n).toList
  | .float x => x.text.toList
  | .str s => (Text.quoted s).toList
  | .brokenText => (Text.quoted replacementText).toList
  | .list items => '[' :: quotedItems items ++ [']']
  | .object fields => '{' :: quotedFields fields ++ ['}']

/-- The items of a list, separated by a comma and a blank. -/
def quotedItems : List Value → List Char
  | [] => []
  | [v] => quotedChars v
  | v :: w :: rest => quotedChars v ++ ',' :: ' ' :: quotedItems (w :: rest)

/-- The fields of an object, separated by a comma and a blank. -/
def quotedFields : List (String × Value) → List Char
  | [] => []
  | [(k, v)] => (Text.quoted k).toList ++ ':' :: ' ' :: quotedChars v
  | (k, v) :: f :: rest =>
    (Text.quoted k).toList ++ ':' :: ' ' :: quotedChars v ++ ',' :: ' ' :: quotedFields (f :: rest)

end

/-- A value as messages show it. -/
def quoted (v : Value) : String :=
  String.ofList (quotedChars v)

end UrlTemplate.Value
