import UrlTemplate.Text.Numeral
import UrlTemplate.Value

/-!
# The syntax of TOML

A document is a list of statements. A statement binds a key to a value, opens a table, or opens the
next element of an array of tables. Keys are paths of names.
-/

namespace UrlTemplate.Toml

/-- A dotted key. -/
abbrev Path := List String

/-- One statement of a document. -/
inductive Statement
  | bind (key : Path) (v : Value)
  | table (key : Path)
  | element (key : Path)
deriving Repr

/-- Why a document cannot be read. -/
inductive Fault
  | malformed
  /-- A whole number has too many digits. -/
  | overlong (digits : Nat)
  /-- An array or a table begins where no deeper nesting is allowed. -/
  | tooDeep
deriving DecidableEq, Repr

/-- The message for a document that cannot be read. -/
def Fault.message : Fault → String
  | .malformed => "invalid TOML"
  | .overlong digits => Text.overlongMessage digits
  | .tooDeep => "maximum recursion depth exceeded"

/-- What a reader finds, where finding nothing is a fault of the document. -/
def required {α : Type} (found : Option α) : Except Fault α :=
  found.elim (.error .malformed) .ok

end UrlTemplate.Toml
