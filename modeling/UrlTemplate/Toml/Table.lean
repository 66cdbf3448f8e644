import UrlTemplate.Entries
import UrlTemplate.Toml.Syntax

/-!
# Tables of a TOML document

Bindings change a table at the end of a path, and make the tables on the way that are not there. A
name can be bound once. A list or an object that was bound as a whole is closed: nothing below its
path can change. `Inline` is a table on one line while its bindings are read.
-/

namespace UrlTemplate.Toml

/-- Changes the table at the end of a path, making the tables on the way that are not there. With
`enterLists` the path leads through the last element of an array of tables. -/
def updateAt (enterLists : Bool) (change : Fields → Option Fields) : Path → Fields → Option Fields
  | [], table => change table
  | name :: path, table =>
    match table.lookup name with
    | none => (updateAt enterLists change path []).map fun t => Entries.put table name (.object t)
    | some (.object inner) =>
      (updateAt enterLists change path inner).map fun t => Entries.put table name (.object t)
    | some (.list items) =>
      match enterLists, items.getLast? with
      | true, some (.object inner) =>
        (updateAt enterLists change path inner).map fun t =>
          Entries.put table name (.list (items.dropLast ++ [.object t]))
      | _, _ => none
    | some _ => none

/-- Binds a name that is not bound yet. -/
def bindNew (name : String) (v : Value) (table : Fields) : Option Fields :=
  if (table.lookup name).isSome then none else some (Entries.put table name v)

/-- Adds an empty table to the array of tables of a name. -/
def appendTable (name : String) (table : Fields) : Option Fields :=
  match table.lookup name with
  | none => some (Entries.put table name (.list [.object []]))
  | some (.list items) => some (Entries.put table name (.list (items ++ [.object []])))
  | some _ => none

/-- A path without its last name, and that name. -/
def splitPath (path : Path) : Path × String :=
  (path.dropLast, path.getLast?.getD "")

/-- Whether a path or one above it is among closed ones. -/
def isClosedBy (closed : List Path) (path : Path) : Bool :=
  closed.any (·.isPrefixOf path)

/-- Closed paths, and the path of a value that was bound if it is a list or an object. -/
def closing (closed : List Path) (path : Path) : Value → List Path
  | .list _ => path :: closed
  | .object _ => path :: closed
  | _ => closed

/-- A table on one line: its fields so far, and the paths below which nothing can change. -/
structure Inline where
  fields : Fields
  closed : List Path

namespace Inline

/-- A table without fields. -/
def empty : Inline := ⟨[], []⟩

/-- Binds a key. -/
def bind? (table : Inline) (key : Path) (v : Value) : Option Inline := do
  if isClosedBy table.closed key then none
  let (parent, name) := splitPath key
  return ⟨← updateAt false (bindNew name v) parent table.fields, closing table.closed key v⟩

end Inline

end UrlTemplate.Toml
