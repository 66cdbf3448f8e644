import UrlTemplate.Template.Reference
import UrlTemplate.Text.Blank
import UrlTemplate.Text.Quoted

/-!
# Placeholders

The body of a slot is a reference followed by filter segments, separated by `|`; blanks around each
part do not count. A segment is the name of a filter followed by its arguments, separated by `:`. A
segment is read only when its filter is applied, so a malformed one spoils that filter alone.
-/

namespace UrlTemplate.Template

/-- What can be wrong with the text of a placeholder. -/
inductive PlaceholderError
  /-- The body of the slot has no reference. -/
  | noVariable (source : String)
  /-- The segment has no filter name. -/
  | noFilterName (segment : String)
deriving DecidableEq, Repr

/-- The message for a malformed placeholder. -/
def PlaceholderError.message : PlaceholderError → String
  | .noVariable source => "Placeholder " ++ Text.quoted source ++ " has no variable name."
  | .noFilterName segment => "Filter " ++ Text.quoted segment ++ " is invalid."

/-- A filter to apply: its name and its arguments, word for word. -/
structure FilterCall where
  name : String
  args : List String
deriving DecidableEq, Repr

/-- Reads a segment. -/
def FilterCall.parse (segment : String) : Except PlaceholderError FilterCall :=
  match Text.splitAt ':' segment with
  | [] => .error (.noFilterName segment)
  | name :: args => if name = "" then .error (.noFilterName segment) else .ok ⟨name, args⟩

/-- A slot's reference and its filter segments. -/
structure Placeholder where
  /-- The whole slot as it stands in the template. -/
  source : String
  reference : Reference
  segments : List String
deriving DecidableEq, Repr

/-- Reads the body of a slot. -/
def Placeholder.parse (source body : String) : Except PlaceholderError Placeholder :=
  match Text.splitAt '|' body with
  | [] => .error (.noVariable source)
  | key :: segments =>
    let key := Text.trim key
    if key = "" then .error (.noVariable source)
    else .ok ⟨source, Reference.parse key, segments.map Text.trim⟩

end UrlTemplate.Template
