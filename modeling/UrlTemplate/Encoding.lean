import UrlTemplate.Template.Reference
import UrlTemplate.Text.Percent
import UrlTemplate.Value.Text

/-!
# Encoding a value for a URL

`encodeValue` percent-encodes the text of a value. The items of a list are encoded one by one, with
commas between them. A text that as a whole has the form of a reference keeps its suffix of
arguments word for word, and `decodeText?` reads an encoded text back. A value that does not count
as present gives the empty text.
-/

namespace UrlTemplate

open Template Text

/-- Percent-encodes a text, its suffix of arguments apart if it has the form of a reference. -/
def encodeText (cs : List Char) : List Char :=
  let (name, suffix) := splitReference cs
  if name ++ suffix = cs then percentChars name ++ suffix else percentChars cs

/-- The text that an encoded text stands for: a suffix of arguments stands for itself. -/
def decodeText? (cs : List Char) : Option (List Char) :=
  let (name, suffix) := splitReference cs
  if name ++ suffix = cs then (percentDecodeChars? name).map (· ++ suffix)
  else percentDecodeChars? cs

/-- The items of a list, encoded, with commas between them. -/
def encodeItems (items : List Value) : List Char :=
  joinChars ',' (items.map fun item => percentChars item.textChars)

/-- The encoded text of a value. -/
def encodeValue (v : Value) : String :=
  if !v.truthy then ""
  else
    match v with
    | .list items => String.ofList (encodeItems items)
    | v => String.ofList (encodeText v.textChars)

end UrlTemplate
