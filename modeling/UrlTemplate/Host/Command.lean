import UrlTemplate.Host

/-!
# Running a host

A run of a host is a sequence of commands. Some change what settings are made from, some make or
fetch settings; `Host.perform` carries a command out.
-/

namespace UrlTemplate

/-- What can be asked of a host. -/
inductive HostCommand
  | write (l : Location) (text : String)
  | remove (l : Location)
  | makeDirectory (l : Location)
  | enter (written : String)
  | setVariable (name : String) (value : Option String)
  | setLayer (layer : Fields)
  /-- Makes settings from given values. -/
  | construct (given : Fields)
  | getSettings
  | reloadSettings
  /-- Fetches or makes the settings for a service. -/
  | settingsFor (given : Option Fields)

namespace Host

/-- Carries a command out; the answer holds settings if the command asks for some. -/
def perform (h : Host) : HostCommand → Host × Except HostError (Option SettingsInstance)
  | .write l text => filed (h.files.write l text)
  | .remove l => filed (h.files.remove l)
  | .makeDirectory l => filed (h.files.makeDirectory l)
  | .enter written => filed (h.files.enter written)
  | .setVariable name value =>
    match h.setVariable name value with
    | .ok h => (h, .ok none)
    | .error fault => (h, .error (.variable fault))
  | .setLayer layer => (h.setLayer layer, .ok none)
  | .construct given => answer (h.construct given)
  | .getSettings => answer h.getSettings
  | .reloadSettings => answer h.reloadSettings
  | .settingsFor given => answer (h.settingsFor given)
where
  filed (changed : Files × Option FileError) : Host × Except HostError (Option SettingsInstance) :=
    ({ h with files := changed.1 },
      (changed.2.map HostError.file).elim (.ok none) .error)
  answer (made : Host × Except HostError SettingsInstance) :
      Host × Except HostError (Option SettingsInstance) :=
    (made.1, made.2.map some)

/-- Carries commands out one after the other up to the first that fails. -/
def attempt (h : Host) : List HostCommand → Host × Except HostError Unit
  | [] => (h, .ok ())
  | command :: rest =>
    match h.perform command with
    | (h, .ok _) => h.attempt rest
    | (h, .error e) => (h, .error e)

/-- Carries commands out one after the other and answers with the state after them. -/
def run (h : Host) (commands : List HostCommand) : Host :=
  commands.foldl (fun h command => (h.perform command).1) h

end Host

end UrlTemplate
