import UrlTemplate.Settings
import UrlTemplate.Settings.Environment

/-!
# Layers of settings

Settings come in layers: values given in code override environment variables, which override the
layer from files, which overrides the defaults. Layers are merged key by key through the sections.
The values in code override those of the environment before both override the files, so a section
of values that takes the place of something else in the environment still shows the files below it.
-/

namespace UrlTemplate

/-- Why settings could not be made. -/
inductive SettingsError
  /-- An environment variable for a section cannot be read as JSON. -/
  | unreadable (name : String) (fault : Json.Fault)
  | invalid (problems : List Problem)
deriving DecidableEq, Repr

/-- The message for a section that cannot be read as JSON. -/
def SettingsError.unreadableMessage (name : String) : Json.Fault → String
  | .malformed =>
    "error parsing value for field \"" ++ name ++ "\" from source \"EnvSettingsSource\""
  | .tooDeep object =>
    "maximum recursion depth exceeded while decoding a JSON " ++
      (if object then "object" else "array") ++ " from a unicode string"

/-- The name of the setting that a name in any letter case stands for; any other name stands for
itself. -/
def Outline.usualName (name : String) : String :=
  if (Outline.settings.lookup (Text.lower name)).isSome then Text.lower name else name

namespace Settings

/-- The values given in code under the usual names of their settings. Of several values for one
setting the first counts. Names inside sections stay as they are. -/
def underUsualNames (given : Fields) : Fields :=
  given.foldr (fun (name, v) named =>
    let usual := Outline.usualName name
    (usual, v) :: Entries.erase named usual) []

/-- Makes settings from the layers above the defaults. -/
def ofLayers (given : Fields) (env : Environment) (files : Fields) :
    Except SettingsError Settings :=
  match env.settings with
  | .error (name, fault) => .error (.unreadable name fault)
  | .ok fromEnvironment =>
    match check (Fields.merge files (Fields.merge fromEnvironment (underUsualNames given))) with
    | .valid settings => .ok settings
    | .invalid problems => .error (.invalid problems)

end Settings

end UrlTemplate
