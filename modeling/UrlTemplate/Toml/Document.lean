import UrlTemplate.Toml.Reader

/-!
# The meaning of a TOML document

`read` answers with the table that a document describes. Statements are carried out one after the
other on a `Draft`: the table so far, and two sets of paths that say what later statements may no
longer do. A path is declared once a statement has opened its table or a dotted key has passed
through it: it cannot be opened again. A path is closed if it was bound to a list or an object as a
whole: nothing below it can change. The first fault of a document counts, whether a statement cannot
be read or cannot be carried out.
-/

namespace UrlTemplate.Toml

/-- The paths that lead to a path and are not empty, the path itself included. -/
def waypoints (path : Path) : List Path :=
  (List.range path.length).map fun i => path.take (i + 1)

/-- A table under construction. -/
structure Draft where
  root : Fields
  /-- The paths whose tables cannot be opened again. -/
  declared : List Path
  /-- The paths below which nothing can change. -/
  closed : List Path
  /-- The paths that become declared with the next header. -/
  passed : List Path
  /-- The path of the table that is open. -/
  header : Path

namespace Draft

/-- An empty table, open at its root. -/
def empty : Draft := ⟨[], [], [], [], []⟩

/-- Whether a path or one above it is closed. -/
def isClosed (d : Draft) (path : Path) : Bool :=
  isClosedBy d.closed path

/-- Binds a key below the open table. -/
def bind? (d : Draft) (key : Path) (v : Value) : Option Draft := do
  let (parent, name) := splitPath key
  let onTheWay := (waypoints parent).map (d.header ++ ·)
  if onTheWay.any (d.declared.contains ·) || d.isClosed (d.header ++ parent) then none
  let root ← updateAt true (bindNew name v) (d.header ++ parent) d.root
  return { d with
    root
    passed := d.passed ++ onTheWay
    closed := closing d.closed (d.header ++ key) v }

/-- Ends the open table: the paths that dotted keys passed through are declared. -/
def settle (d : Draft) : Draft :=
  { d with declared := d.declared ++ d.passed, passed := [] }

/-- Opens a table. -/
def table? (d : Draft) (key : Path) : Option Draft := do
  let d := d.settle
  if d.declared.contains key || d.isClosed key then none
  let root ← updateAt true some key d.root
  return { d with root, declared := key :: d.declared, header := key }

/-- Opens the next element of an array of tables; what was said below the element before it no
longer counts. -/
def element? (d : Draft) (key : Path) : Option Draft := do
  let d := d.settle
  if d.isClosed key then none
  let (parent, name) := splitPath key
  let root ← updateAt true (appendTable name) parent d.root
  return { d with
    root
    declared := key :: d.declared.filter (!key.isPrefixOf ·)
    closed := d.closed.filter (!key.isPrefixOf ·)
    header := key }

/-- Carries a statement out. -/
def perform? (d : Draft) : Statement → Option Draft
  | .bind key v => d.bind? key v
  | .table key => d.table? key
  | .element key => d.element? key

end Draft

/-- The table that a document describes. -/
def read (document : String) : Except Fault Fields :=
  let (statements, fault) := statements document
  match statements.foldlM Draft.perform? Draft.empty, fault with
  | none, _ => .error .malformed
  | some _, some fault => .error fault
  | some d, none => .ok d.root

end UrlTemplate.Toml
