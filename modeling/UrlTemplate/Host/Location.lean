import UrlTemplate.Text.Split

/-!
# Locations of files

A location is written as names separated by slashes, from the root if it starts with a slash and
from the working directory otherwise. Empty names and the name `.` do not count; the name `..`
leads to the directory above and is kept. Two slashes in front are kept apart from one, though both
mean the root; more than two are one.
-/

namespace UrlTemplate

/-- Where a location starts. -/
inductive Anchor
  /-- The working directory. -/
  | here
  | root
  /-- The root, written with two slashes. -/
  | doubleRoot
deriving DecidableEq, Repr

namespace Anchor

/-- The start that the slashes in front of a location mean. -/
def ofSlashes : (count : Nat) → Anchor
  | 0 => .here
  | 2 => .doubleRoot
  | _ => .root

/-- The slashes in front of a location. -/
def text : Anchor → String
  | .here => ""
  | .root => "/"
  | .doubleRoot => "//"

end Anchor

/-- Where a file or directory is. -/
structure Location where
  anchor : Anchor
  names : List String
deriving DecidableEq, Repr

namespace Location

/-- Whether a location starts from the root. -/
def isAbsolute (l : Location) : Bool :=
  l.anchor ≠ .here

/-- Reads a location. -/
def parse (written : String) : Location where
  anchor := .ofSlashes (written.toList.takeWhile (· = '/')).length
  names := (Text.splitAt '/' written).filter fun name => name ≠ "" && name ≠ "."

/-- The written form of a location. -/
def text (l : Location) : String :=
  let text := l.anchor.text ++ Text.join '/' l.names
  if text = "" then "." else text

/-- The location of a file that is written relative to a directory. -/
def append (directory : Location) (written : String) : Location :=
  let l := parse written
  if l.isAbsolute then l else { directory with names := directory.names ++ l.names }

/-- The names left of two paths from the root after the part that both begin with. -/
def dropCommon : (base target : List String) → List String × List String
  | a :: base, b :: target => if a = b then dropCommon base target else (a :: base, b :: target)
  | base, target => (base, target)

/-- The way from one directory to a location, both given from the root. -/
def relative (base target : List String) : Location :=
  let (up, down) := dropCommon base target
  ⟨.here, up.map (fun _ => "..") ++ down⟩

end Location

end UrlTemplate
