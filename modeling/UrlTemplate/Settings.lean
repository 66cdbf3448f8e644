import UrlTemplate.Digest
import UrlTemplate.Log.Output
import UrlTemplate.Settings.Check

/-!
# Settings

The settings of a host, in sections with defaults. `Settings.check` reads them from an object:
unknown names are ignored, missing ones take their defaults, and all problems are reported.
-/

namespace UrlTemplate

/-- The defaults of expansions. -/
structure ExpansionSettings where
  maxIterations : Nat := 2
  encode : Bool := true
deriving DecidableEq, Repr

/-- The digest behind the filter `hash`. -/
structure DigestSettings where
  enabled : Bool := true
  algorithm : Algorithm := .sha384
deriving DecidableEq, Repr

/-- The log. -/
structure LoggingSettings where
  level : Level := .info
  format : LogFormat := .json
deriving DecidableEq, Repr

/-- The counters. -/
structure MetricsSettings where
  enabled : Bool := true
deriving DecidableEq, Repr

/-- Log and counters. -/
structure ObservabilitySettings where
  logging : LoggingSettings := {}
  metrics : MetricsSettings := {}
deriving DecidableEq, Repr

/-- All settings. -/
structure Settings where
  appName : String := "tagvars"
  debug : Bool := false
  expansion : ExpansionSettings := {}
  digest : DigestSettings := {}
  observability : ObservabilitySettings := {}
deriving DecidableEq, Repr

/-! ## Reading -/

/-- Reads the section of the expansion defaults. -/
def ExpansionSettings.check (fields : Fields) (path : List String) : Checked ExpansionSettings :=
  (Checked.valid ExpansionSettings.mk).apply
    (fields.leaf path "max_iterations" 2 Setting.count)
  |>.apply (fields.leaf path "encode" true Setting.flag)

/-- Reads the section of the digest. -/
def DigestSettings.check (fields : Fields) (path : List String) : Checked DigestSettings :=
  (Checked.valid DigestSettings.mk).apply
    (fields.leaf path "enabled" true Setting.flag)
  |>.apply (fields.leaf path "algorithm" .sha384 (Setting.choice Algorithm.all Algorithm.name))

/-- Reads the section of the log. -/
def LoggingSettings.check (fields : Fields) (path : List String) : Checked LoggingSettings :=
  (Checked.valid LoggingSettings.mk).apply
    (fields.leaf path "level" .info (Setting.choice Level.all Level.capitalName))
  |>.apply (fields.leaf path "format" .json (Setting.choice LogFormat.all LogFormat.name))

/-- Reads the section of the counters. -/
def MetricsSettings.check (fields : Fields) (path : List String) : Checked MetricsSettings :=
  (Checked.valid MetricsSettings.mk).apply (fields.leaf path "enabled" true Setting.flag)

/-- Reads the section of log and counters. -/
def ObservabilitySettings.check (fields : Fields) (path : List String) :
    Checked ObservabilitySettings :=
  (Checked.valid ObservabilitySettings.mk).apply
    (fields.sectionAt path "logging" {} LoggingSettings.check)
  |>.apply (fields.sectionAt path "metrics" {} MetricsSettings.check)

/-- Reads all settings. -/
def Settings.check (fields : Fields) : Checked Settings :=
  (Checked.valid Settings.mk).apply
    (fields.leaf [] "app_name" "tagvars" Setting.text)
  |>.apply (fields.leaf [] "debug" false Setting.flag)
  |>.apply (fields.sectionAt [] "expansion" {} ExpansionSettings.check)
  |>.apply (fields.sectionAt [] "digest" {} DigestSettings.check)
  |>.apply (fields.sectionAt [] "observability" {} ObservabilitySettings.check)

/-! ## Writing -/

/-- The settings as an object. -/
def Settings.toFields (s : Settings) : Fields := [
  ("app_name", .str s.appName),
  ("debug", .bool s.debug),
  ("expansion", .object [
    ("max_iterations", .int s.expansion.maxIterations), ("encode", .bool s.expansion.encode)]),
  ("digest", .object [
    ("enabled", .bool s.digest.enabled), ("algorithm", .str s.digest.algorithm.name)]),
  ("observability", .object [
    ("logging", .object [
      ("level", .str s.observability.logging.level.capitalName),
      ("format", .str s.observability.logging.format.name)]),
    ("metrics", .object [("enabled", .bool s.observability.metrics.enabled)])])]

end UrlTemplate
