import UrlTemplate.Host.Files
import UrlTemplate.Settings.Environment
import UrlTemplate.Toml.Document

/-!
# Configuration files

The configuration of a host is in a directory that an environment variable names, or else in the
nearest directory `config` at or above the working directory. Two files count there: the defaults
and those of the deployment, which override the defaults.
-/

namespace UrlTemplate

/-- Why configuration could not be read. -/
inductive ConfigurationError
  /-- The directory that the environment names is not there. -/
  | noDirectory (written : String)
  | noFile (l : Location)
  | file (e : FileError)
  /-- The text of a file cannot be read. -/
  | unreadable (fault : Toml.Fault)
deriving DecidableEq, Repr

/-- The message for configuration that could not be read. -/
def ConfigurationError.message : ConfigurationError → String
  | .noDirectory written => "Config directory not found: " ++ written
  | .noFile l => "Configuration file not found: " ++ l.text
  | .file e => e.message
  | .unreadable fault => fault.message

namespace Configuration

/-- The variable that names the directory of the configuration. -/
def directoryVariable : String := "TAGVARS_CONFIG_DIR"

/-- The variable that names the deployment. -/
def deploymentVariable : String := "TAGVARS_ENV"

/-- How many directories are searched, from the working directory upwards. -/
def searchDepth : Nat := 5

/-- What is at a location, if anything is. -/
def find (files : Files) (l : Location) : Except ConfigurationError (Option Node) :=
  match files.node l with
  | .ok node => .ok (some node)
  | .error .missing | .error .notADirectory | .error .nullCharacter => .ok none
  | .error fault => .error (.file ⟨fault, l.text⟩)

/-- The first of some directories, going up from a path, that has an entry `config`; the root is
above itself. -/
def nearest? (files : Files) : (depth : Nat) → (path : List String) →
    Except ConfigurationError (Option (List String))
  | 0, _ => .ok none
  | depth + 1, path => do
    let candidate := path ++ ["config"]
    match ← find files ⟨.root, candidate⟩ with
    | some _ => .ok (some candidate)
    | none => nearest? files depth path.dropLast

/-- The directory of the configuration that is found from the working directory. Where there is none
it is the one that would be in the working directory. -/
def search (files : Files) : Except ConfigurationError Location := do
  match ← nearest? files searchDepth files.current with
  | some path => .ok ⟨.root, path⟩
  | none => .ok ⟨.here, ["config"]⟩

/-- The directory of the configuration. -/
def directory (env : Environment) (files : Files) : Except ConfigurationError Location :=
  match env.lookup directoryVariable with
  | none | some "" => search files
  | some written => do
    let l := Location.parse written
    match ← find files l with
    | some _ => .ok l
    | none => .error (.noDirectory written)

/-- The name of the deployment. -/
def deployment (env : Environment) : String :=
  (env.lookup deploymentVariable).getD "development"

/-- Reads a file. -/
def readToml (files : Files) (l : Location) : Except ConfigurationError Fields := do
  match ← find files l with
  | none => .error (.noFile l)
  | some (.directory _) => .error (.file ⟨.isADirectory, l.text⟩)
  | some (.file text) => (Toml.read text).mapError .unreadable

/-- Reads a file that need not be there. -/
def readOptional (files : Files) (l : Location) : Except ConfigurationError Fields := do
  match ← find files l with
  | none => .ok []
  | some _ => readToml files l

/-- Reads the configuration: the defaults, overridden by the file of the deployment. -/
def read (env : Environment) (files : Files) : Except ConfigurationError Fields := do
  let directory ← directory env files
  let defaults ← readOptional files (directory.append "default.toml")
  let overrides ← readOptional files (directory.append (deployment env ++ ".toml"))
  return Fields.merge defaults overrides

end Configuration

end UrlTemplate
