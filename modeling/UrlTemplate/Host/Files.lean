import UrlTemplate.Entries
import UrlTemplate.Host.Location
import UrlTemplate.Text.Quoted

/-!
# Files and directories

The files of a host form a tree. `Files.resolve` follows a location through the tree: every name on
the way has to be there, a file has nothing below it, and neither the location nor a name may be too
long. A change of the files answers with the files after it and with what went wrong, if anything
did: what was done before that stays. Directories are made and never removed.
-/

namespace UrlTemplate

/-- A file with its text, or a directory with its entries. -/
inductive Node
  | file (text : String)
  | directory (entries : List (String × Node))
deriving Repr, Inhabited

namespace Node

/-- What a path of plain names leads to. -/
def at? : List String → Node → Option Node
  | [], node => some node
  | name :: path, .directory entries =>
    match entries.lookup name with
    | some node => node.at? path
    | none => none
  | _ :: _, .file _ => none

/-- Puts a node at a path of plain names, making the directories on the way that are not there. A
file in the way stays, and then nothing changes. -/
def put (new : Node) : List String → Node → Node
  | [], _ => new
  | name :: path, .directory entries =>
    .directory (Entries.put entries name
      (put new path ((entries.lookup name).getD (.directory []))))
  | _ :: _, .file text => .file text

/-- Removes what is at a path of plain names. -/
def remove : List String → Node → Node
  | [name], .directory entries => .directory (Entries.erase entries name)
  | name :: path, .directory entries =>
    match entries.lookup name with
    | some node => .directory (Entries.put entries name (remove path node))
    | none => .directory entries
  | _, node => node

end Node

/-- The files of a host and its working directory, a path of plain names. -/
structure Files where
  root : Node
  current : List String

/-- What stands in the way of reading or changing files. -/
inductive FileFault
  | missing
  | exists
  /-- A file stands where a directory should be. -/
  | notADirectory
  /-- A directory stands where a file should be. -/
  | isADirectory
  /-- The location or a name in it is too long. -/
  | tooLong
  /-- The location has a character that no name can have. -/
  | nullCharacter
deriving DecidableEq, Repr

/-- The name of a fault, with its number if it has one. -/
def FileFault.text : FileFault → String
  | .missing => "[Errno 2] No such file or directory"
  | .exists => "[Errno 17] File exists"
  | .notADirectory => "[Errno 20] Not a directory"
  | .isADirectory => "[Errno 21] Is a directory"
  | .tooLong => "[Errno 36] File name too long"
  | .nullCharacter => "embedded null byte"

/-- A fault at a location, with the location as it was written. -/
structure FileError where
  fault : FileFault
  written : String
deriving DecidableEq, Repr

/-- The message for a fault at a location. A location that cannot be written down is left out. -/
def FileError.message (e : FileError) : String :=
  if e.fault = .nullCharacter then e.fault.text
  else e.fault.text ++ ": " ++ Text.quoted e.written

namespace Files

/-- Files with nothing but the working directory and those above it. -/
def new (current : List String) : Files :=
  ⟨Node.put (.directory []) current (.directory []), current⟩

/-- The most bytes that the written form of a location may have. -/
def maxLocationBytes : Nat := 4095

/-- The most bytes that a name may have. -/
def maxNameBytes : Nat := 255

/-- Follows names from a directory, which is given by its path of plain names. The length of a name
matters only in a directory that is there. -/
def follow (root : Node) : (place : List String) → (names : List String) →
    Except FileFault (List String)
  | place, [] => .ok place
  | place, name :: names =>
    match root.at? place with
    | some (.directory _) =>
      let next := if name = ".." then place.dropLast else place ++ [name]
      if maxNameBytes < name.utf8ByteSize then .error .tooLong
      else if (root.at? next).isSome then follow root next names
      else .error .missing
    | some (.file _) => .error .notADirectory
    | none => .error .missing

/-- The path from the root of the place where a location starts. -/
def start (files : Files) (l : Location) : List String :=
  if l.isAbsolute then [] else files.current

/-- What is wrong with the written form of a location, wherever it leads. -/
def writtenFault? (written : String) : Option FileFault :=
  if '\x00' ∈ written.toList then some .nullCharacter
  else if maxLocationBytes < written.utf8ByteSize then some .tooLong
  else none

/-- The path from the root that a location leads to. -/
def resolve (files : Files) (l : Location) : Except FileFault (List String) :=
  match writtenFault? l.text with
  | some fault => .error fault
  | none => follow files.root (files.start l) l.names

/-- What is at a location. -/
def node (files : Files) (l : Location) : Except FileFault Node := do
  match files.root.at? (← files.resolve l) with
  | some node => .ok node
  | none => .error .missing

/-- The path that a location has, or will have once the directories on the way are made. -/
def place (files : Files) (l : Location) : List String :=
  l.names.foldl (fun path name => if name = ".." then path.dropLast else path ++ [name])
    (files.start l)

/-- Puts a node at a location whose directory is there. -/
def put (files : Files) (l : Location) (node : Node) : Files :=
  { files with root := Node.put node (files.place l) files.root }

/-- The location of the directory that a location is in. -/
def above (l : Location) : Location :=
  { l with names := l.names.dropLast }

/-- Makes a directory in one that is there. One that is there already stays as it is. -/
def makeLast (files : Files) (l : Location) : Except FileFault Files :=
  match files.node l with
  | .ok (.directory _) => .ok files
  | .ok (.file _) => .error .exists
  | .error .missing => (files.node (above l)).map fun _ => files.put l (.directory [])
  | .error fault => .error fault

/-- Makes a directory whose names are given from the last to the first. The directories above it are
made only where they are missed. -/
def makeFrom (files : Files) (anchor : Anchor) : (reversed : List String) → Files × Option FileError
  | [] => (files, none)
  | name :: upper =>
    let l : Location := ⟨anchor, (name :: upper).reverse⟩
    match files.makeLast l with
    | .ok files => (files, none)
    | .error .missing =>
      match files.makeFrom anchor upper with
      | (files, some e) => (files, some e)
      | (files, none) =>
        match files.makeLast l with
        | .ok files => (files, none)
        | .error fault => (files, some ⟨fault, l.text⟩)
    | .error fault => (files, some ⟨fault, l.text⟩)

/-- Makes a directory and those above it; those that `..` leaves again are made too. -/
def makeDirectory (files : Files) (l : Location) : Files × Option FileError :=
  files.makeFrom l.anchor l.names.reverse

/-- Writes a file, making the directories above it. -/
def write (files : Files) (l : Location) (text : String) : Files × Option FileError :=
  match files.makeDirectory (above l) with
  | (files, some e) => (files, some e)
  | (files, none) =>
    match files.node l with
    | .ok (.directory _) => (files, some ⟨.isADirectory, l.text⟩)
    | .ok (.file _) | .error .missing => (files.put l (.file text), none)
    | .error fault => (files, some ⟨fault, l.text⟩)

/-- Removes a file. -/
def remove (files : Files) (l : Location) : Files × Option FileError :=
  match files.node l with
  | .ok (.file _) => ({ files with root := Node.remove (files.place l) files.root }, none)
  | .ok (.directory _) => (files, some ⟨.isADirectory, l.text⟩)
  | .error fault => (files, some ⟨fault, l.text⟩)

/-- The path from the root of the directory that a written location leads to; no text leads to
none. -/
def directory (files : Files) (written : String) : Except FileFault (List String) :=
  match writtenFault? written with
  | some fault => .error fault
  | none =>
    if written = "" then .error .missing
    else do
      let l := Location.parse written
      let path ← follow files.root (files.start l) l.names
      match files.root.at? path with
      | some (.directory _) => .ok path
      | some (.file _) => .error .notADirectory
      | none => .error .missing

/-- Goes to another directory, which a fault names as it was written. -/
def enter (files : Files) (written : String) : Files × Option FileError :=
  match files.directory written with
  | .ok path => ({ files with current := path }, none)
  | .error fault => (files, some ⟨fault, written⟩)

end Files

end UrlTemplate
