import UrlTemplate.Expansion.Service
import UrlTemplate.Host.Configuration
import UrlTemplate.Settings.Layers

/-!
# Hosts

A host has files, environment variables and settings, and builds services from its settings.
Settings are loaded once and kept until they are reloaded. Loading reads the configuration files
into a layer, which stays in force for all settings made later, also when the settings themselves
turn out invalid; a failed load is not kept.
-/

namespace UrlTemplate

/-- Settings with the number under which they were made, which tells them apart from equal ones. -/
structure SettingsInstance where
  serial : Nat
  settings : Settings
deriving DecidableEq, Repr

/-- The state of a host. -/
structure Host where
  files : Files
  environment : Environment
  /-- The layer of settings from configuration files. -/
  layer : Fields
  /-- The settings that were loaded, if any. -/
  cached : Option SettingsInstance
  /-- How many settings have been made. -/
  made : Nat

/-- Why a host could not do something. -/
inductive HostError
  | configuration (error : ConfigurationError)
  | settings (error : SettingsError)
  | file (error : FileError)
  | variable (fault : VariableFault)
deriving DecidableEq, Repr

namespace Host

/-- A host in a working directory with neither files nor variables. -/
def new (current : List String) : Host :=
  ⟨.new current, [], [], none, 0⟩

/-- Sets or unsets a variable. -/
def setVariable (h : Host) (name : String) : Option String → Except VariableFault Host
  | some value =>
    match variableFault? name value with
    | some fault => .error fault
    | none => .ok { h with environment := Entries.put h.environment name value }
  | none => .ok { h with environment := Entries.erase h.environment name }

/-- Puts another layer in the place of the one from configuration files. -/
def setLayer (h : Host) (layer : Fields) : Host :=
  { h with layer }

/-- Makes settings from given values and the layers of the host. -/
def construct (h : Host) (given : Fields) : Host × Except HostError SettingsInstance :=
  match Settings.ofLayers given h.environment h.layer with
  | .ok settings => ({ h with made := h.made + 1 }, .ok ⟨h.made, settings⟩)
  | .error e => (h, .error (.settings e))

/-- Reads the configuration files into the layer and makes settings, which are kept. -/
def load (h : Host) : Host × Except HostError SettingsInstance :=
  match Configuration.read h.environment h.files with
  | .error e => (h, .error (.configuration e))
  | .ok layer =>
    match (h.setLayer layer).construct [] with
    | (h, .ok made) => ({ h with cached := some made }, .ok made)
    | (h, .error e) => (h, .error e)

/-- The settings that were loaded; they are loaded if there are none. -/
def getSettings (h : Host) : Host × Except HostError SettingsInstance :=
  match h.cached with
  | some kept => (h, .ok kept)
  | none => h.load

/-- Loads the settings again. -/
def reloadSettings (h : Host) : Host × Except HostError SettingsInstance :=
  { h with cached := none }.getSettings

/-- The settings for a service: made from given values, or those that were loaded. -/
def settingsFor (h : Host) : (given : Option Fields) → Host × Except HostError SettingsInstance
  | some given => h.construct given
  | none => h.getSettings

end Host

namespace Settings

/-- The algorithm of the filter `hash`, if it is enabled. -/
def digestAlgorithm (s : Settings) : Option Algorithm :=
  if s.digest.enabled then some s.digest.algorithm else none

/-- Builds a service. -/
def toService (s : Settings) : Service :=
  .new (s.digestAlgorithm.map Algorithm.toDigest) s.expansion.maxIterations s.expansion.encode
    s.observability.metrics.enabled none

/-- What is logged when a service is built. -/
def serviceEntry (s : Settings) : LogEntry :=
  ⟨.info, "creating_variable_service", [
    ("max_iterations", .int s.expansion.maxIterations),
    ("encode", .bool s.expansion.encode),
    ("digest", (s.digestAlgorithm.map fun a => Value.str a.name).getD .null)]⟩

/-- What is logged when a host starts. -/
def startEntry (s : Settings) : LogEntry :=
  ⟨.info, "bootstrapping", [("app_name", .str s.appName), ("debug", .bool s.debug)]⟩

/-- The log that a host writes. -/
def logOutput (s : Settings) : LogOutput :=
  ⟨s.observability.logging.level, s.observability.logging.format, []⟩

end Settings

end UrlTemplate
