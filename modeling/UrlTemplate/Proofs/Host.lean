import UrlTemplate.Host.Command
import UrlTemplate.Proofs.Host.Search

/-!
# What a host keeps

Loading settings ends in one of three ways (`Host.Loads`): the configuration cannot be read, and
the layer stays as it is; no settings can be made, and the layer that was read stays; or they are
made and kept. `Host.Turn` says all that a command can do (`Host.turn_perform`), and what it does to
the settings that are kept, to the layer and to the numbers of settings is read off there.

After a command that fetches settings the host keeps what was answered, or nothing after a failure,
and no other command matters (`Turn.cached_eq`). So along a run the host keeps the settings that
were fetched since they were last reloaded (`Host.cached_run_iff`). The layer is the last one that a
command put in force (`Host.layer_run`).

**Theorem** (`Host.run_keeps_settings`): all of this at every point of every run, with what it means
for the settings that are fetched or made there. Where they are loaded, they are made from what the
files and the environment give at that point (`Configuration.Gives`).
-/

namespace UrlTemplate

/-- What a host answers to a command. -/
abbrev HostAnswer := Except HostError (Option SettingsInstance)

/-- The settings in an answer. -/
def HostAnswer.settings? (answer : HostAnswer) : Option SettingsInstance :=
  answer.toOption.join

open HostAnswer (settings?)

namespace HostCommand

/-- Whether a command fetches the settings that are loaded once. -/
def fetches : HostCommand → Bool
  | .getSettings | .reloadSettings | .settingsFor none => true
  | _ => false

/-- Whether a command has the settings loaded again. -/
def isReload : HostCommand → Bool
  | .reloadSettings => true
  | _ => false

/-- The values that a command makes settings from, if it does. -/
def given? : HostCommand → Option Fields
  | .construct given | .settingsFor (some given) => some given
  | _ => none

/-- The layer that a command brings, if it does. -/
def layer? : HostCommand → Option Fields
  | .setLayer layer => some layer
  | _ => none

end HostCommand

namespace Host

variable {h : Host}

/-! ### What a command does -/

/-- How loading settings can end: the host after it and its answer. -/
inductive Loads (h : Host) : Host → Except HostError SettingsInstance → Prop
  /-- The configuration cannot be read. -/
  | unread {e : ConfigurationError} (hread : Configuration.read h.environment h.files = .error e) :
      Loads h { h with cached := none } (.error (.configuration e))
  /-- No settings can be made from the configuration that was read. -/
  | refused {layer : Fields} {e : SettingsError}
      (hread : Configuration.read h.environment h.files = .ok layer)
      (hmade : Settings.ofLayers [] h.environment layer = .error e) :
      Loads h { h with layer, cached := none } (.error (.settings e))
  /-- Settings are made and kept. -/
  | made {layer : Fields} {settings : Settings}
      (hread : Configuration.read h.environment h.files = .ok layer)
      (hmade : Settings.ofLayers [] h.environment layer = .ok settings) :
      Loads h { h with layer, cached := some ⟨h.made, settings⟩, made := h.made + 1 }
        (.ok ⟨h.made, settings⟩)

/-- With nothing kept, loading ends in one of these ways. -/
theorem loads_load (h : Host) :
    h.Loads { h with cached := none }.load.1 { h with cached := none }.load.2 := by
  unfold load
  rcases hread : Configuration.read h.environment h.files with e | layer
  · exact .unread hread
  · simp only [construct, setLayer]
    rcases hmade : Settings.ofLayers [] h.environment layer with e | settings
    · exact .refused hread hmade
    · exact .made hread hmade

/-- All that a command can do: the host after it and the answer. -/
inductive Turn (h : Host) (command : HostCommand) : Host → HostAnswer → Prop
  /-- It is about files, the working directory or the environment. -/
  | outside (files : Files) (environment : Environment) {answer : HostAnswer}
      (hfetches : command.fetches = false) (hlayer : command.layer? = none)
      (hanswer : settings? answer = none) : Turn h command { h with files, environment } answer
  /-- It brings a layer. -/
  | layer {layer : Fields} (hlayer : command.layer? = some layer)
      (hfetches : command.fetches = false) : Turn h command { h with layer } (.ok none)
  /-- It makes settings. -/
  | made {given : Fields} {settings : Settings} (hgiven : command.given? = some given)
      (hfetches : command.fetches = false) (hlayer : command.layer? = none)
      (hmade : Settings.ofLayers given h.environment h.layer = .ok settings) :
      Turn h command { h with made := h.made + 1 } (.ok (some ⟨h.made, settings⟩))
  /-- It cannot make settings. -/
  | refused {given : Fields} {e : SettingsError} (hgiven : command.given? = some given)
      (hfetches : command.fetches = false) (hlayer : command.layer? = none)
      (hmade : Settings.ofLayers given h.environment h.layer = .error e) :
      Turn h command h (.error (.settings e))
  /-- It fetches settings that are kept. -/
  | kept {i : SettingsInstance} (hfetches : command.fetches = true)
      (hreload : command.isReload = false) (hkept : h.cached = some i) :
      Turn h command h (.ok (some i))
  /-- It has settings loaded. -/
  | loads {after : Host} {answer : Except HostError SettingsInstance}
      (hfetches : command.fetches = true) (hempty : command.isReload = true ∨ h.cached = none)
      (hloads : h.Loads after answer) : Turn h command after (answer.map some)

/-- Making settings is a turn of a command that does so. -/
theorem turn_construct {command : HostCommand} {given : Fields}
    (hgiven : command.given? = some given) (hfetches : command.fetches = false)
    (hlayer : command.layer? = none) (h : Host) :
    h.Turn command (h.construct given).1 ((h.construct given).2.map some) := by
  unfold construct
  rcases hmade : Settings.ofLayers given h.environment h.layer with e | settings
  · exact .refused hgiven hfetches hlayer hmade
  · exact .made hgiven hfetches hlayer hmade

/-- Fetching settings is a turn of a command that does so. -/
theorem turn_getSettings {command : HostCommand} (hfetches : command.fetches = true)
    (hreload : command.isReload = false) (h : Host) :
    h.Turn command h.getSettings.1 (h.getSettings.2.map some) := by
  unfold getSettings
  rcases hkept : h.cached with _ | i
  · have hsame : { h with cached := none } = h := by
      rw [← hkept]
    have hloads := loads_load h
    rw [hsame] at hloads
    exact .loads hfetches (.inr hkept) hloads
  · exact .kept hfetches hreload hkept

/-- A change of files is a turn of a command that is about them. -/
theorem turn_filed {command : HostCommand} (hfetches : command.fetches = false)
    (hlayer : command.layer? = none) (h : Host) (changed : Files × Option FileError) :
    h.Turn command (perform.filed h changed).1 (perform.filed h changed).2 := by
  obtain ⟨files, _ | e⟩ := changed
  · exact .outside files h.environment hfetches hlayer rfl
  · exact .outside files h.environment hfetches hlayer rfl

/-- Every command does one of these things. -/
theorem turn_perform (h : Host) (command : HostCommand) :
    h.Turn command (h.perform command).1 (h.perform command).2 := by
  cases command with
  | write l text => exact turn_filed rfl rfl h (h.files.write l text)
  | remove l => exact turn_filed rfl rfl h (h.files.remove l)
  | makeDirectory l => exact turn_filed rfl rfl h (h.files.makeDirectory l)
  | enter written => exact turn_filed rfl rfl h (h.files.enter written)
  | setVariable name value =>
    simp only [perform, setVariable]
    split
    · rename_i h' hset
      split at hset
      · split at hset <;> cases hset
        exact .outside _ _ rfl rfl rfl
      · cases hset
        exact .outside _ _ rfl rfl rfl
    · exact .outside _ _ rfl rfl rfl
  | setLayer layer => exact .layer rfl rfl
  | construct given => exact turn_construct rfl rfl rfl h
  | getSettings => exact turn_getSettings rfl rfl h
  | reloadSettings => exact .loads rfl (.inl rfl) (loads_load h)
  | settingsFor given =>
    cases given with
    | none => exact turn_getSettings rfl rfl h
    | some given => exact turn_construct rfl rfl rfl h

/-! ### What a command changes -/

section Turn

variable {command : HostCommand} {after : Host} {answer : HostAnswer}

/-- After a command that fetches settings a host keeps those that it has answered, or none; any
other command leaves those that are kept. -/
theorem Turn.cached_eq (hturn : h.Turn command after answer) :
    after.cached = if command.fetches then settings? answer else h.cached := by
  cases hturn with
  | outside _ _ hfetches => rw [hfetches]; rfl
  | layer _ hfetches => rw [hfetches]; rfl
  | made _ hfetches => rw [hfetches]; rfl
  | refused _ hfetches => rw [hfetches]; rfl
  | kept hfetches _ hkept => rw [hfetches, hkept]; rfl
  | loads hfetches _ hloads => rw [hfetches]; cases hloads <;> rfl

/-- The layer that a command puts in force, if it does: the one that it brings, or the one that is
read where settings are loaded. -/
def layered? (h : Host) (command : HostCommand) : Option Fields :=
  if command.fetches then
    if command.isReload ∨ h.cached = none then
      (Configuration.read h.environment h.files).toOption
    else none
  else command.layer?

/-- A command puts its layer in force, or leaves the one that is. -/
theorem Turn.layer_eq (hturn : h.Turn command after answer) :
    after.layer = (h.layered? command).getD h.layer := by
  unfold layered?
  cases hturn with
  | outside _ _ hfetches hlayer => rw [hfetches, hlayer]; rfl
  | layer hlayer hfetches => rw [hfetches, hlayer]; rfl
  | made _ hfetches hlayer => rw [hfetches, hlayer]; rfl
  | refused _ hfetches hlayer => rw [hfetches, hlayer]; rfl
  | kept hfetches hreload hkept =>
    rw [hfetches, if_pos rfl, if_neg (by simp [hreload, hkept])]
    rfl
  | loads hfetches hempty hloads =>
    rw [hfetches, if_pos rfl, if_pos hempty]
    cases hloads with
    | unread hread => rw [hread]; rfl
    | refused hread => rw [hread]; rfl
    | made hread => rw [hread]; rfl

/-- The settings that a host keeps were made before. -/
def Numbered (h : Host) : Prop :=
  ∀ i, h.cached = some i → i.serial < h.made

/-- Settings are counted, those in an answer too. -/
theorem Turn.numbered (hturn : h.Turn command after answer) (hnumbered : h.Numbered) :
    h.made ≤ after.made ∧ after.Numbered ∧
      ∀ i, settings? answer = some i → i.serial < after.made := by
  have hnone {answer : HostAnswer} {made : Nat} (hanswer : settings? answer = none) :
      ∀ i, settings? answer = some i → i.serial < made := by
    intro i hi
    cases hanswer.symm.trans hi
  have hempty {host : Host} (hcached : host.cached = none) : host.Numbered := by
    intro i hi
    cases hcached.symm.trans hi
  cases hturn with
  | outside _ _ _ _ hanswer => exact ⟨Nat.le_refl _, hnumbered, hnone hanswer⟩
  | layer _ _ => exact ⟨Nat.le_refl _, hnumbered, hnone rfl⟩
  | made _ _ _ _ =>
    refine ⟨Nat.le_succ _, fun i hi => Nat.lt_succ_of_lt (hnumbered i hi), ?_⟩
    rintro i ⟨⟩
    exact Nat.lt_succ_self _
  | refused _ _ _ _ => exact ⟨Nat.le_refl _, hnumbered, hnone rfl⟩
  | kept _ _ hkept =>
    refine ⟨Nat.le_refl _, hnumbered, ?_⟩
    rintro i ⟨⟩
    exact hnumbered _ hkept
  | loads _ _ hloads =>
    cases hloads with
    | unread _ => exact ⟨Nat.le_refl _, hempty rfl, hnone rfl⟩
    | refused _ _ => exact ⟨Nat.le_refl _, hempty rfl, hnone rfl⟩
    | made _ _ =>
      refine ⟨Nat.le_succ _, ?_, ?_⟩
      · rintro i ⟨⟩
        exact Nat.lt_succ_self _
      · rintro i ⟨⟩
        exact Nat.lt_succ_self _

end Turn

/-! ### Runs -/

/-- The commands of a run with the answers to them. -/
def history (h : Host) : List HostCommand → List (HostCommand × HostAnswer)
  | [] => []
  | command :: rest => (command, (h.perform command).2) :: (h.perform command).1.history rest

/-- The layers that the commands of a run put in force, in order. -/
def layers (h : Host) : List HostCommand → List Fields
  | [] => []
  | command :: rest => (h.layered? command).toList ++ (h.perform command).1.layers rest

/-- Settings were fetched in a history, and they were not reloaded since. -/
def FetchedLast (history : List (HostCommand × HostAnswer)) (i : SettingsInstance) : Prop :=
  ∃ before command answer after, history = before ++ (command, answer) :: after ∧
    command.fetches = true ∧ settings? answer = some i ∧
    ∀ turn ∈ after, turn.1.isReload = false

/-- A first turn has fetched settings, or those in question were fetched later. -/
theorem fetchedLast_cons {turn : HostCommand × HostAnswer}
    {history : List (HostCommand × HostAnswer)} {i : SettingsInstance} :
    FetchedLast (turn :: history) i ↔
      FetchedLast history i ∨
        (turn.1.fetches = true ∧ settings? turn.2 = some i) ∧
          ∀ later ∈ history, later.1.isReload = false := by
  constructor
  · rintro ⟨before, command, answer, after, heq, hfetches, hanswer, hafter⟩
    cases before with
    | nil =>
      obtain ⟨rfl, rfl⟩ := List.cons.inj heq
      exact .inr ⟨⟨hfetches, hanswer⟩, hafter⟩
    | cons first before =>
      obtain ⟨rfl, rfl⟩ := List.cons.inj heq
      exact .inl ⟨before, command, answer, after, rfl, hfetches, hanswer, hafter⟩
  · rintro (⟨before, command, answer, after, rfl, hfetches, hanswer, hafter⟩ |
      ⟨⟨hfetches, hanswer⟩, hlater⟩)
    · exact ⟨turn :: before, command, answer, after, rfl, hfetches, hanswer, hafter⟩
    · exact ⟨[], turn.1, turn.2, history, rfl, hfetches, hanswer, hlater⟩

/-- A command that fetches settings finds them kept, or has them loaded. -/
theorem Turn.of_fetches {command : HostCommand} {after : Host} {answer : HostAnswer}
    (hturn : h.Turn command after answer) (hfetches : command.fetches = true) :
    (command.isReload = false ∧ ∃ i, h.cached = some i ∧ after = h ∧ answer = .ok (some i)) ∨
      (command.isReload = true ∨ h.cached = none) ∧
        ∃ loaded, h.Loads after loaded ∧ answer = loaded.map some := by
  cases hturn with
  | outside _ _ hnot => cases hnot.symm.trans hfetches
  | layer _ hnot => cases hnot.symm.trans hfetches
  | made _ hnot => cases hnot.symm.trans hfetches
  | refused _ hnot => cases hnot.symm.trans hfetches
  | kept _ hreload hkept => exact .inl ⟨hreload, _, hkept, rfl, rfl⟩
  | loads _ hempty hloads => exact .inr ⟨hempty, _, hloads, rfl⟩

/-- A command that fetches settings leaves the files and the environment. -/
theorem perform_of_fetches (h : Host) (command : HostCommand) (hfetches : command.fetches = true) :
    (h.perform command).1.files = h.files ∧ (h.perform command).1.environment = h.environment := by
  rcases (turn_perform h command).of_fetches hfetches with ⟨-, i, -, hafter, -⟩ | ⟨-, _, hloads, -⟩
  · rw [hafter]
    exact ⟨rfl, rfl⟩
  · generalize (h.perform command).1 = after at hloads
    cases hloads <;> exact ⟨rfl, rfl⟩

/-- A command that fetches settings without reloading them answers with those that are kept, and
nothing changes. -/
theorem perform_of_kept {command : HostCommand} {i : SettingsInstance}
    (hfetches : command.fetches = true) (hreload : command.isReload = false)
    (hkept : h.cached = some i) : h.perform command = (h, .ok (some i)) := by
  rcases (turn_perform h command).of_fetches hfetches with
    ⟨-, j, hkept', hafter, hanswer⟩ | ⟨hempty, -⟩
  · obtain rfl := Option.some.inj (hkept'.symm.trans hkept)
    exact Prod.ext hafter hanswer
  · simp [hreload, hkept] at hempty

/-- A command that reloads settings, or fetches them where none are kept, has them loaded. -/
theorem perform_of_not_kept {command : HostCommand} (hfetches : command.fetches = true)
    (hempty : command.isReload = true ∨ h.cached = none) :
    ∃ after answer, h.Loads after answer ∧ h.perform command = (after, answer.map some) := by
  rcases (turn_perform h command).of_fetches hfetches with
    ⟨hreload, i, hkept, -⟩ | ⟨-, answer, hloads, hanswer⟩
  · simp [hreload, hkept] at hempty
  · exact ⟨_, answer, hloads, Prod.ext rfl hanswer⟩

/-- **At the end of a run a host keeps the settings that were fetched since they were last reloaded,
or those that it kept before if they were not reloaded at all.** -/
theorem cached_run_iff (h : Host) (commands : List HostCommand) (i : SettingsInstance) :
    (h.run commands).cached = some i ↔
      FetchedLast (h.history commands) i ∨
        h.cached = some i ∧ ∀ turn ∈ h.history commands, turn.1.isReload = false := by
  induction commands generalizing h with
  | nil => simp [run, history, FetchedLast]
  | cons command rest ih =>
    have hrun : h.run (command :: rest) = (h.perform command).1.run rest := rfl
    rw [hrun, ih, history, fetchedLast_cons, (turn_perform h command).cached_eq,
      List.forall_mem_cons]
    rcases hfetches : command.fetches with _ | _
    · have hreload : command.isReload = false := by
        cases command <;> first | rfl | cases hfetches
      simp [hreload]
    · simp only [if_true, true_and]
      constructor
      · rintro (hlast | hfirst)
        · exact .inl (.inl hlast)
        · exact .inl (.inr hfirst)
      · rintro ((hlast | hfirst) | ⟨hkept, hreload, hrest⟩)
        · exact .inl hlast
        · exact .inr hfirst
        · refine .inr ⟨?_, hrest⟩
          rw [perform_of_kept hfetches hreload hkept]
          rfl

/-- **At the end of a run the layer is the last one that was put in force.** -/
theorem layer_run (h : Host) (commands : List HostCommand) :
    (h.run commands).layer = (h.layers commands).getLast?.getD h.layer := by
  induction commands generalizing h with
  | nil => rfl
  | cons command rest ih =>
    have hrun : h.run (command :: rest) = (h.perform command).1.run rest := rfl
    rw [hrun, ih, layers, (turn_perform h command).layer_eq, List.getLast?_append]
    cases ((h.perform command).1.layers rest).getLast? <;> cases h.layered? command <;> rfl

/-- The settings in the answers of a run are all counted. -/
theorem numbered_run (hnumbered : h.Numbered) (commands : List HostCommand) :
    h.made ≤ (h.run commands).made ∧ (h.run commands).Numbered ∧
      ∀ turn ∈ h.history commands, ∀ i, settings? turn.2 = some i →
        i.serial < (h.run commands).made := by
  induction commands generalizing h with
  | nil => exact ⟨Nat.le_refl _, hnumbered, by simp [history]⟩
  | cons command rest ih =>
    obtain ⟨hmade, hafter, hanswer⟩ := (turn_perform h command).numbered hnumbered
    obtain ⟨hmade', hend, hrest⟩ := ih hafter
    refine ⟨Nat.le_trans hmade hmade', hend, ?_⟩
    intro turn hturn i hi
    rcases List.mem_cons.mp hturn with rfl | hturn
    · exact Nat.lt_of_lt_of_le (hanswer i hi) hmade'
    · exact hrest turn hturn i hi

/-- Settings that were loaded are new, they are those that would be made again right after, and they
are kept. -/
theorem Loads.of_ok {after : Host} {i : SettingsInstance} (hloads : h.Loads after (.ok i)) :
    i.serial = h.made ∧ after.cached = some i ∧
      (after.perform (.construct [])).2 = .ok (some ⟨after.made, i.settings⟩) := by
  cases hloads with
  | made hread hmade =>
    refine ⟨rfl, rfl, ?_⟩
    simp only [perform, perform.answer, construct, hmade]
    rfl

/-- Settings are loaded from what the files and the environment give. -/
theorem Loads.of_gives {after : Host} {answer : Except HostError SettingsInstance} {layer : Fields}
    (hloads : h.Loads after answer) (hgives : Configuration.Gives h.environment h.files layer) :
    after.layer = layer ∧
      answer = ((Settings.ofLayers [] h.environment layer).map
        (SettingsInstance.mk h.made)).mapError .settings := by
  have hread := hgives.read_eq
  cases hloads with
  | unread hread' => cases hread.symm.trans hread'
  | refused hread' hmade =>
    obtain rfl := Except.ok.inj (hread.symm.trans hread')
    rw [hmade]
    exact ⟨rfl, rfl⟩
  | made hread' hmade =>
    obtain rfl := Except.ok.inj (hread.symm.trans hread')
    rw [hmade]
    exact ⟨rfl, rfl⟩

/-- After a failed load nothing is kept. -/
theorem Loads.of_error {after : Host} {e : HostError} (hloads : h.Loads after (.error e)) :
    after.cached = none := by
  cases hloads <;> rfl

/-- **At every point of every run that starts with nothing kept: settings that were fetched since
the last reload are fetched again, and nothing changes. If there are none, or with a reload, they
are loaded: the configuration is read, and on success the settings are new, they are those that
would be made again right after, and they are kept; after a failure nothing is kept, and the layer
is another one only if it was read. The layer that was read is what the files, the environment and
the working directory give at this point, and the settings are made from it. Reloading is fetching
with nothing kept. The layer is the last one that was put in force, and settings are made from it,
the environment and the values given.** -/
theorem run_keeps_settings {start : Host} (hstart : start.cached = none)
    (commands : List HostCommand) :
    let history := start.history commands
    let h := start.run commands
    (∀ command, command.fetches = true → command.isReload = false →
      ∀ i, FetchedLast history i → h.perform command = (h, .ok (some i))) ∧
    (∀ command, command.fetches = true →
      (command.isReload = true ∨ ¬ ∃ i, FetchedLast history i) →
      ∃ after answer, h.Loads after answer ∧ h.perform command = (after, answer.map some) ∧
        (∀ i, answer = .ok i →
          (∀ turn ∈ history, ∀ j, settings? turn.2 = some j → j.serial < i.serial) ∧
          (after.perform (.construct [])).2 = .ok (some ⟨after.made, i.settings⟩) ∧
          after.perform .getSettings = (after, .ok (some i))) ∧
        (∀ e, answer = .error e → after.cached = none) ∧
        ∀ layer, Configuration.Gives h.environment h.files layer →
          after.layer = layer ∧
          answer = ((Settings.ofLayers [] h.environment layer).map
            (SettingsInstance.mk h.made)).mapError .settings) ∧
    h.perform .reloadSettings = { h with cached := none }.perform .getSettings ∧
    h.layer = (start.layers commands).getLast?.getD start.layer ∧
    ∀ given, h.perform (.construct given) =
      match Settings.ofLayers given h.environment h.layer with
      | .ok settings => ({ h with made := h.made + 1 }, .ok (some ⟨h.made, settings⟩))
      | .error e => (h, .error (.settings e)) := by
  intro history h
  have hkept (i : SettingsInstance) : h.cached = some i ↔ FetchedLast history i := by
    refine (cached_run_iff start commands i).trans (or_iff_left ?_)
    rw [hstart]
    exact nofun
  have hnumbered : start.Numbered := by
    intro i hi
    rw [hstart] at hi
    cases hi
  refine ⟨?_, ?_, rfl, layer_run start commands, ?_⟩
  · intro command hfetches hreload i hi
    exact perform_of_kept hfetches hreload ((hkept i).mpr hi)
  · intro command hfetches hempty
    have hnone : command.isReload = true ∨ h.cached = none := by
      refine hempty.imp_right fun hnever => ?_
      rw [Option.eq_none_iff_forall_ne_some]
      intro i hi
      exact hnever ⟨i, (hkept i).mp hi⟩
    obtain ⟨after, answer, hloads, hperform⟩ := perform_of_not_kept hfetches hnone
    refine ⟨after, answer, hloads, hperform, ?_, ?_, fun layer hgives => hloads.of_gives hgives⟩
    · rintro i rfl
      obtain ⟨hserial, hcached, hagain⟩ := hloads.of_ok
      refine ⟨?_, hagain, perform_of_kept rfl rfl hcached⟩
      intro turn hturn j hj
      rw [hserial]
      exact (numbered_run hnumbered commands).2.2 turn hturn j hj
    · rintro e rfl
      exact hloads.of_error
  · intro given
    simp only [perform, perform.answer, construct]
    cases Settings.ofLayers given h.environment h.layer <;> rfl

/-- The file with the defaults, in the working directory. -/
def defaultsFile : Location :=
  ⟨.here, ["config", "default.toml"]⟩

/-- Settings are loaded from a file, which is written again. -/
def rewriting : List HostCommand :=
  [.write defaultsFile "debug = true", .getSettings, .write defaultsFile "app_name = 'other'"]

/-- The files after that. -/
def rewritten : Files :=
  ⟨.directory [("base", .directory [("config", .directory
    [("default.toml", .file "app_name = 'other'")])])], ["base"]⟩

/-- They give the other name. -/
theorem gives_rewritten : Configuration.Gives [] rewritten [("app_name", .str "other")] := by
  have hsearchable : Configuration.Searchable [] rewritten := by
    refine ⟨?_, by decide, by decide, by decide⟩
    exact List.forall_mem_singleton.mpr ⟨by decide, by decide, by decide⟩
  have hreached : Configuration.Reached rewritten 0 :=
    ⟨by decide, fun _ hlt => absurd hlt (Nat.not_lt_zero _)⟩
  exact .searched (.inl rfl) hsearchable hreached rfl (.file rfl (by decide +kernel)) (by decide)
    (.nothing rfl)

/-- When the file is written again, the settings that were loaded from it are kept, and others are
made from the layer that was read; only reloading reads the file as it is now. -/
theorem run_keeps_settings_under_changed_file :
    let h := (Host.new ["base"]).run rewriting
    h.perform .getSettings = (h, .ok (some ⟨0, { debug := true }⟩)) ∧
    settings? (h.perform (.construct [])).2 = some ⟨1, { debug := true }⟩ ∧
    settings? (h.perform .reloadSettings).2 = some ⟨1, { appName := "other" }⟩ ∧
    (h.perform .reloadSettings).1.layer = [("app_name", .str "other")] := by
  intro h
  have hstart : (Host.new ["base"]).cached = none := rfl
  obtain ⟨hkept, hloaded, -⟩ := run_keeps_settings hstart rewriting
  have hfetched : FetchedLast ((Host.new ["base"]).history rewriting) ⟨0, { debug := true }⟩ := by
    refine fetchedLast_cons.mpr (.inl (fetchedLast_cons.mpr (.inr ⟨⟨rfl, by decide +kernel⟩, ?_⟩)))
    exact List.forall_mem_singleton.mpr rfl
  -- Of the settings in between, neither the files nor the environment know.
  obtain ⟨hfiles, henvironment⟩ := perform_of_fetches
    ((Host.new ["base"]).perform (.write defaultsFile "debug = true")).1 .getSettings rfl
  have hrewritten : h.files = rewritten := by
    change (perform.filed _ (Files.write (perform _ .getSettings).1.files _ _)).1.files = _
    rw [hfiles]
    rfl
  have hunset : h.environment = [] := by
    change (perform.filed _ (Files.write (perform _ .getSettings).1.files _ _)).1.environment = _
    rw [hfiles]
    exact henvironment
  have hgives : Configuration.Gives h.environment h.files [("app_name", .str "other")] := by
    rw [hunset, hrewritten]
    exact gives_rewritten
  obtain ⟨after, answer, -, hperform, -, -, hread⟩ := hloaded .reloadSettings rfl (.inl rfl)
  obtain ⟨hlayer, hanswer⟩ := hread _ hgives
  have hother : settings? (answer.map some) = some ⟨1, { appName := "other" }⟩ := by
    rw [hanswer]
    decide +kernel
  rw [hperform]
  exact ⟨hkept .getSettings rfl rfl _ hfetched, by decide +kernel, hother, hlayer⟩

end Host

end UrlTemplate
