import UrlTemplate.Json.Reader
import UrlTemplate.Text.Case
import UrlTemplate.Text.Split
import UrlTemplate.Value.Merge

/-!
# Settings from environment variables

A variable of the environment names a setting by its path: a lead that all of them share, then the
names of the path joined by two underscores, in any letter case. A variable that names a section
holds the section as JSON text, and variables that name settings inside the section override it.
-/

namespace UrlTemplate

/-- Environment variables in the order in which they were set. -/
abbrev Environment := List (String × String)

/-- Why a variable cannot be set. -/
inductive VariableFault
  /-- The name or the value holds the character that ends texts in an environment. -/
  | nulCharacter
  /-- The name holds the character that ends names in an environment. -/
  | equalsSign
  | emptyName
deriving DecidableEq, Repr

/-- The message for a variable that cannot be set. -/
def VariableFault.message : VariableFault → String
  | .nulCharacter => "embedded null byte"
  | .equalsSign => "illegal environment variable name"
  | .emptyName => "[Errno 22] Invalid argument"

/-- Why a variable cannot be set, if it cannot. -/
def variableFault? (name value : String) : Option VariableFault :=
  if (name ++ value).contains '\x00' then some .nulCharacter
  else if name.contains '=' then some .equalsSign
  else if name = "" then some .emptyName
  else none

/-- The names that settings have: a section knows the names inside it. -/
inductive Outline
  | leaf
  | sections (entries : List (String × Outline))
deriving Repr

namespace Outline

/-- The names of the settings. -/
def settings : List (String × Outline) := [
  ("app_name", .leaf),
  ("debug", .leaf),
  ("expansion", .sections [("max_iterations", .leaf), ("encode", .leaf)]),
  ("digest", .sections [("enabled", .leaf), ("algorithm", .leaf)]),
  ("observability", .sections [
    ("logging", .sections [("level", .leaf), ("format", .leaf)]),
    ("metrics", .sections [("enabled", .leaf)])])]

/-- The names inside a section. -/
def entries : Outline → List (String × Outline)
  | .leaf => []
  | .sections entries => entries

/-- Whether a variable for it holds JSON text. -/
def isSection : Outline → Bool
  | .leaf => false
  | .sections _ => true

end Outline

namespace Environment

/-- What the names of all variables for settings start with, in small letters. -/
def lead : String := "tagvars_"

/-- The variables by their names in small letters; of two that differ only in case the later one
counts, in the place of the first. -/
def lowered (env : Environment) : Environment :=
  env.foldl (fun vars (name, value) => Entries.put vars (Text.lower name) value) []

/-- The part of a name behind a lead. -/
def behind? (lead name : String) : Option String :=
  (Text.dropLead? lead.toList name.toList).map String.ofList

/-- What a name inside a section stands for. It may also carry the lead of all variables. -/
def member? (outline : Outline) (name : String) : Option Outline :=
  (outline.entries.find? fun (known, _) =>
    known = Text.lower name || lead ++ known = Text.lower name).map Prod.snd

/-- What a path of names below a section stands for. -/
def memberAt? (outline : Outline) (path : List String) : Option Outline :=
  path.foldlM member? outline

/-- Binds the name at the end of a path, making the objects on the way that are not there. Where
something else is in the way nothing changes. -/
def putAt (fields : Fields) (path : List String) (name : String) (v : Value) : Fields :=
  match path with
  | [] => Entries.put fields name v
  | step :: path =>
    match fields.lookup step with
    | none => Entries.put fields step (.object (putAt [] path name v))
    | some (.object inner) => Entries.put fields step (.object (putAt inner path name v))
    | some _ => fields

/-- The names of a path that two underscores separate. -/
def pathOf (s : String) : List String :=
  (Text.splitOnText? "__" s).getD [s]

/-- How deep JSON text may nest. -/
def jsonRoom : Nat := 975

/-- The value of a variable inside a section: JSON if it names a section itself and is not empty. -/
def nestedValue (target : Option Outline) (text : String) : Except Json.Fault Value :=
  match target with
  | some outline =>
    if outline.isSection && text ≠ "" then Json.read jsonRoom text else .ok (.str text)
  | none => .ok (.str text)

/-- The fields that the variables for settings inside a section give it. -/
def nested (vars : Environment) (name : String) (outline : Outline) : Except Json.Fault Fields :=
  vars.foldlM (fun fields (variableName, text) =>
    match behind? (lead ++ name ++ "__") variableName with
    | none => .ok fields
    | some rest =>
      let path := pathOf rest
      (nestedValue (memberAt? outline path) text).map fun v =>
        putAt fields path.dropLast (path.getLast?.getD "") v) []

/-- The fields of a section with the names it knows in their usual letter case; of two names for one
field the later one counts. The fuel bounds the depth of the section. -/
def knownNames : (fuel : Nat) → Outline → Fields → Fields
  | 0, _, fields => fields
  | fuel + 1, outline, fields =>
    fields.foldl (fun named (name, v) =>
      match outline.entries.find? fun (known, _) => known = Text.lower name with
      | none => Entries.put named name v
      | some (known, inner) =>
        match inner.isSection, v with
        | true, .object fields => Entries.put named known (.object (knownNames fuel inner fields))
        | _, v => Entries.put named known v) []

/-- The deepest nesting of sections. -/
def depth : Nat := 3

/-- The value that the environment gives a section, if it gives one. -/
def section? (vars : Environment) (name : String) (outline : Outline) :
    Except Json.Fault (Option Value) := do
  match vars.lookup (lead ++ name) with
  | none =>
    let fields ← nested vars name outline
    return if fields = [] then none else some (.object (knownNames depth outline fields))
  | some text =>
    match ← Json.read jsonRoom text with
    | .null => return none
    | .object base =>
      let fields ← nested vars name outline
      return some (.object (knownNames depth outline (Fields.merge base fields)))
    | v => return some v

/-- The value that the environment gives a setting or a section, if it gives one. -/
def value? (vars : Environment) (name : String) : Outline → Except Json.Fault (Option Value)
  | .leaf => .ok ((vars.lookup (lead ++ name)).map .str)
  | outline => section? vars name outline

/-- The settings that the environment gives, or the first section whose text cannot be read. -/
def settings (env : Environment) : Except (String × Json.Fault) Fields :=
  let vars := env.lowered
  Outline.settings.foldlM (fun fields (name, outline) =>
    match value? vars name outline with
    | .error fault => .error (name, fault)
    | .ok none => .ok fields
    | .ok (some v) => .ok (Entries.put fields name v)) []

end Environment

end UrlTemplate
