import UrlTemplate.Expansion.Service

/-!
# Sessions

A session is a list of commands (`Service.run`), and its history of bindings is the list of the
registrations that were accepted (`Service.accepted`). A registration is accepted exactly if its
name is free and it brings a handler; otherwise it is refused, and a refusal leaves no trace but its
report (`Service.perform_register_of_free`, `Service.perform_register_of_refused`). So what one
command does to the filters is to add the binding that it had accepted, if any
(`Service.filters_perform`), which keeps names distinct (`Service.nodup_names_perform`), and along a
session the filters are the built-in ones and then the history (`Service.filters_run`).

`Service.Reachable` are the services that a session can arrive at. In all of them the filter `hash`
is the one that uses the digest (`Reachable.get?_hash`).

**Theorem** (`Service.run_keeps_filters`): all of this at every point of every session, and whatever
is bound there stays bound to the same handler for ever.
-/

namespace UrlTemplate

/-! ### Registrations -/

namespace Registry

variable {r : Registry} {name : String}

/-- The built-in filters with whether they are synchronous, in the order of registration. -/
def seeds : List (String × Bool) :=
  [("default", true), ("substr", true), ("trim", true), ("json", true), ("toLowerCase", true),
    ("toUpperCase", true), ("not", true), ("base64", true), ("hash", false), ("if", false)]

/-- The built-in filters are those of the list. -/
theorem map_builtins : builtins.map (fun entry => (entry.1, entry.2.isSync)) = seeds := rfl

/-- The built-in filters have distinct names. -/
theorem nodup_seeds : (seeds.map Prod.fst).Nodup := by
  decide

/-- A free name is bound to the handler, behind the other names, and nothing is shown. -/
theorem register_of_free (h : name ∉ r.names) {sync : Bool} (handler : Handler.OfKind sync) :
    r.register name sync (some handler) =
      ([], .ok { r with filters := r.filters ++ [(name, handler.val)] }) := by
  have hrefusal : r.refusal? name sync (some handler) = none := by
    unfold refusal?
    cases sync <;> simp [h]
  unfold register
  simp only [hrefusal]
  rfl

/-- Any other registration is a violation. It is for the lack of a handler or because the name is
taken; only a registration for a synchronous handler looks for the handler first. -/
theorem register_of_refused {sync : Bool} {handler : Option (Handler.OfKind sync)}
    (h : ¬ (name ∉ r.names ∧ handler.isSome)) :
    let refusal : Refusal :=
      if handler.isNone ∧ (sync ∨ name ∉ r.names) then .noHandler else .nameTaken
    r.register name sync handler =
      ([Diagnostics.critical (refusal.violation name)], .error (refusal.violation name)) := by
  intro refusal
  have hrefusal : r.refusal? name sync handler = some refusal := by
    unfold refusal?
    by_cases hname : name ∈ r.names
    · rcases handler with _ | handler <;> cases sync <;> simp [refusal, hname]
    · rcases handler with _ | handler
      · cases sync <;> simp [refusal, hname]
      · exact absurd ⟨hname, rfl⟩ h
  unfold register
  simp only [hrefusal]

/-- With distinct names every entry is what its name is bound to. -/
theorem get?_of_mem (hnames : r.names.Nodup) {handler : Handler} (h : (name, handler) ∈ r.filters) :
    r.get? name = some handler :=
  Entries.lookup_of_mem hnames h

end Registry

/-- A registration that was accepted. -/
structure Registration where
  name : String
  /-- Whether it was made for a synchronous handler. -/
  sync : Bool
  handler : Handler.OfKind sync

/-- The binding that a registration has made. -/
def Registration.binding (registration : Registration) : String × Handler :=
  (registration.name, registration.handler.val)

namespace Service

variable {s : Service} {name : String}

/-- A registration of a free name is carried out, and nothing is shown. -/
theorem perform_register_of_free (h : name ∉ s.registry.names) {sync : Bool}
    (handler : Handler.OfKind sync) :
    s.perform (.register name sync (some handler)) =
      ({ s with registry :=
          { s.registry with filters := s.registry.filters ++ [(name, handler.val)] } },
        ⟨[], .ok .null⟩) := by
  simp only [perform, Registry.register_of_free h]

/-- Any other registration is a violation; it is reported, once, and nothing else happens. -/
theorem perform_register_of_refused {sync : Bool} {handler : Option (Handler.OfKind sync)}
    (h : ¬ (name ∉ s.registry.names ∧ handler.isSome)) :
    let refusal : Registry.Refusal :=
      if handler.isNone ∧ (sync ∨ name ∉ s.registry.names) then .noHandler else .nameTaken
    s.perform (.register name sync handler) =
      (s, ⟨[Diagnostics.critical (refusal.violation name)],
        .error (.violation (refusal.violation name))⟩) := by
  simp only [perform, Registry.register_of_refused h]

/-! ### What a command does to the filters -/

/-- The registration that a command asks for and gets. -/
def accepted? (s : Service) (command : Command) : Option Registration :=
  match command, (s.perform command).2.result with
  | .register name sync (some handler), .ok _ => some ⟨name, sync, handler⟩
  | _, _ => none

/-- A registration of a free name is accepted. -/
theorem accepted?_of_free (h : name ∉ s.registry.names) {sync : Bool}
    (handler : Handler.OfKind sync) :
    s.accepted? (.register name sync (some handler)) = some ⟨name, sync, handler⟩ := by
  unfold accepted?
  rw [perform_register_of_free h]

/-- No other registration is accepted. -/
theorem accepted?_of_refused {sync : Bool} {handler : Option (Handler.OfKind sync)}
    (h : ¬ (name ∉ s.registry.names ∧ handler.isSome)) :
    s.accepted? (.register name sync handler) = none := by
  unfold accepted?
  rw [perform_register_of_refused h]
  rcases handler with _ | handler <;> rfl

/-- Only registrations touch the filters. -/
theorem filters_perform_of_not_register (s : Service) {command : Command}
    (h : ∀ name sync handler, command ≠ .register name sync handler) :
    (s.perform command).1.registry.filters = s.registry.filters := by
  cases command with
  | register name sync handler => exact absurd rfl (h name sync handler)
  | _ => rfl

/-- A command adds the binding that it had accepted behind the others, if there is one. -/
theorem filters_perform (s : Service) (command : Command) :
    (s.perform command).1.registry.filters =
      s.registry.filters ++ (s.accepted? command).toList.map Registration.binding := by
  cases command with
  | register name sync handler =>
    by_cases h : name ∉ s.registry.names ∧ handler.isSome
    · obtain ⟨hname, hsome⟩ := h
      obtain ⟨handler, rfl⟩ := Option.isSome_iff_exists.mp hsome
      rw [perform_register_of_free hname, accepted?_of_free hname]
      rfl
    · rw [perform_register_of_refused h, accepted?_of_refused h]
      exact (List.append_nil _).symm
  | _ => exact (List.append_nil _).symm

/-- A name that is accepted was free. -/
theorem free_of_accepted? {command : Command} {registration : Registration}
    (h : s.accepted? command = some registration) : registration.name ∉ s.registry.names := by
  intro hmem
  unfold accepted? at h
  split at h
  · rename_i name sync handler value hresult
    cases h
    have hrefused : ¬ (name ∉ s.registry.names ∧ (some handler).isSome) := fun hfree => hfree.1 hmem
    rw [perform_register_of_refused hrefused] at hresult
    cases hresult
  · cases h

/-- A command keeps names distinct. -/
theorem nodup_names_perform (h : s.registry.names.Nodup) (command : Command) :
    (s.perform command).1.registry.names.Nodup := by
  unfold Registry.names Entries.keys at h ⊢
  rw [filters_perform, List.map_append]
  rcases haccepted : s.accepted? command with _ | registration
  · simpa using h
  · have hnew : registration.name ∉ s.registry.filters.map Prod.fst :=
      free_of_accepted? haccepted
    refine List.nodup_append.mpr ⟨h, by simp, ?_⟩
    intro taken htaken added hadded heq
    rw [heq, List.mem_singleton.mp hadded] at htaken
    exact hnew htaken

/-! ### Sessions -/

/-- The service after some commands. -/
def run (s : Service) (commands : List Command) : Service :=
  commands.foldl (fun s command => (s.perform command).1) s

/-- The registrations that are accepted in the course of some commands. -/
def accepted (s : Service) : List Command → List Registration
  | [] => []
  | command :: rest => (s.accepted? command).toList ++ (s.perform command).1.accepted rest

/-- A session adds the bindings that it had accepted, in order, behind the others. -/
theorem filters_run (s : Service) (commands : List Command) :
    (s.run commands).registry.filters =
      s.registry.filters ++ (s.accepted commands).map Registration.binding := by
  induction commands generalizing s with
  | nil => exact (List.append_nil _).symm
  | cons command rest ih =>
    have hstep : (s.run (command :: rest)).registry.filters = _ := ih (s.perform command).1
    rw [hstep, filters_perform, accepted, List.map_append, List.append_assoc]

/-- A session keeps names distinct. -/
theorem nodup_names_run (h : s.registry.names.Nodup) (commands : List Command) :
    (s.run commands).registry.names.Nodup := by
  induction commands generalizing s with
  | nil => exact h
  | cons command rest ih => exact ih (nodup_names_perform h command)

/-- What a name is bound to it stays bound to. -/
theorem get?_run {handler : Handler} (h : s.registry.get? name = some handler)
    (commands : List Command) : (s.run commands).registry.get? name = some handler := by
  unfold Registry.get? at h ⊢
  rw [filters_run, List.lookup_append, h]
  rfl

/-- Registrations add filters under their names, behind the others, and do nothing else. -/
theorem run_registrations (s : Service) {commands : List Command} {P : String → Prop}
    (h : ∀ command ∈ commands, ∃ name sync handler, command = .register name sync handler ∧
      P name) :
    ∃ added, (∀ entry ∈ added, P entry.1) ∧
      s.run commands =
        { s with registry := { s.registry with filters := s.registry.filters ++ added } } := by
  induction commands generalizing s with
  | nil => exact ⟨[], by simp, by rw [List.append_nil]; rfl⟩
  | cons command rest ih =>
    obtain ⟨name, sync, handler, rfl, hname⟩ := h command List.mem_cons_self
    obtain ⟨added, hadded, hrest⟩ :=
      ih (s.perform (.register name sync handler)).1 fun other hother =>
        h other (List.mem_cons_of_mem _ hother)
    have hrun : s.run (.register name sync handler :: rest) =
        (s.perform (.register name sync handler)).1.run rest := rfl
    rw [hrun, hrest]
    by_cases hfree : name ∉ s.registry.names ∧ handler.isSome
    · obtain ⟨hfree, hsome⟩ := hfree
      obtain ⟨handler, rfl⟩ := Option.isSome_iff_exists.mp hsome
      rw [perform_register_of_free hfree]
      refine ⟨(name, handler.val) :: added, ?_, ?_⟩
      · intro entry hentry
        rcases List.mem_cons.mp hentry with rfl | hentry
        · exact hname
        · exact hadded entry hentry
      · simp only [List.append_assoc, List.cons_append, List.nil_append]
    · rw [perform_register_of_refused hfree]
      exact ⟨added, hadded, rfl⟩

/-- A service that a session can arrive at. -/
inductive Reachable : Service → Prop
  /-- A session starts with a new service. -/
  | new (digest : Option Digest) (maxIterations : Int) (encode recordMetrics : Bool)
      (diagnostics : Option Diagnostics) :
      Reachable (.new digest maxIterations encode recordMetrics diagnostics)
  /-- It goes on by a command. -/
  | perform {s : Service} (h : s.Reachable) (command : Command) : Reachable (s.perform command).1

/-- Along a session the built-in filters stay what they are. -/
theorem Reachable.get?_builtin {s : Service} (h : s.Reachable) {handler : Handler}
    (hbuiltin : Registry.builtins.lookup name = some handler) :
    s.registry.get? name = some handler := by
  induction h with
  | new digest maxIterations encode recordMetrics diagnostics => exact hbuiltin
  | perform h command ih => exact get?_run ih [command]

/-- Along a session the filter `hash` uses the digest. -/
theorem Reachable.get?_hash {s : Service} (h : s.Reachable) :
    s.registry.get? "hash" = some .hash :=
  h.get?_builtin rfl

/-- **At every point of every session the filters are the built-in ones and then the registrations
that were accepted, in order, under distinct names. Whatever comes later, each stays bound to the
handler of its registration, and synchronous or not as it was registered. A registration is
accepted, without a word, if its name is free and it brings a handler; otherwise it fails, and all
that remains of it is one critical entry. No other command touches the filters.** -/
theorem run_keeps_filters (digest : Option Digest) (maxIterations : Int)
    (encode recordMetrics : Bool) (diagnostics : Option Diagnostics) (commands : List Command) :
    let start := new digest maxIterations encode recordMetrics diagnostics
    let s := start.run commands
    (s.registry.names.Nodup ∧
      s.registry.names =
        Registry.seeds.map Prod.fst ++ (start.accepted commands).map Registration.name) ∧
    (∀ later, let last := (s.run later).registry
      (∀ seed ∈ Registry.seeds, (last.get? seed.1).map Handler.isSync = some seed.2) ∧
      last.get? "hash" = some .hash ∧
      (∀ registration ∈ start.accepted commands,
        last.get? registration.name = some registration.handler.val ∧
        (last.get? registration.name).map Handler.isSync = some registration.sync) ∧
      ∀ name handler, s.registry.get? name = some handler → last.get? name = some handler) ∧
    (∀ name sync (handler : Handler.OfKind sync), name ∉ s.registry.names →
      s.perform (.register name sync (some handler)) =
        ({ s with registry :=
            { s.registry with filters := s.registry.filters ++ [(name, handler.val)] } },
          ⟨[], .ok .null⟩)) ∧
    (∀ name sync (handler : Option (Handler.OfKind sync)),
      ¬ (name ∉ s.registry.names ∧ handler.isSome) →
      let refusal : Registry.Refusal :=
        if handler.isNone ∧ (sync ∨ name ∉ s.registry.names) then .noHandler else .nameTaken
      s.perform (.register name sync handler) =
        (s, ⟨[Diagnostics.critical (refusal.violation name)],
          .error (.violation (refusal.violation name))⟩)) ∧
    ∀ command, (∀ name sync handler, command ≠ .register name sync handler) →
      (s.perform command).1.registry.filters = s.registry.filters := by
  intro start s
  have hnames : start.registry.names.Nodup := Registry.nodup_seeds
  have hfilters : s.registry.filters =
      Registry.builtins ++ (start.accepted commands).map Registration.binding :=
    start.filters_run commands
  have hnodup : s.registry.names.Nodup := nodup_names_run hnames commands
  have hbound {name : String} {handler : Handler}
      (h : (name, handler) ∈ Registry.builtins ++
        (start.accepted commands).map Registration.binding)
      (later : List Command) : (s.run later).registry.get? name = some handler :=
    get?_run (Registry.get?_of_mem hnodup (hfilters ▸ h)) later
  refine ⟨⟨hnodup, ?_⟩, ?_, ?_, ?_, ?_⟩
  · unfold Registry.names Entries.keys
    rw [hfilters, List.map_append, ← Registry.map_builtins, List.map_map, List.map_map]
    rfl
  · intro later last
    refine ⟨?_, ?_, ?_, ?_⟩
    · intro seed hseed
      rw [← Registry.map_builtins] at hseed
      obtain ⟨⟨name, handler⟩, hmem, rfl⟩ := List.mem_map.mp hseed
      rw [hbound (List.mem_append_left _ hmem) later]
      rfl
    · have hbuiltin : s.registry.get? "hash" = some .hash := get?_run rfl commands
      exact get?_run hbuiltin later
    · intro registration hregistration
      have hget := hbound (List.mem_append_right _ (List.mem_map_of_mem hregistration)) later
      refine ⟨hget, ?_⟩
      rw [hget]
      exact congrArg some registration.handler.property
    · intro name handler hget
      exact get?_run hget later
  · intro name sync handler hname
    exact perform_register_of_free hname handler
  · intro name sync handler hrefused
    exact perform_register_of_refused hrefused
  · intro command hcommand
    exact s.filters_perform_of_not_register hcommand

/-- Of a new name, a taken one and a taken one without a handler, the first is accepted. -/
theorem run_keeps_filters_of_taken_names :
    let echo : Handler.OfKind true := ⟨.sync fun item _ => .ok item, rfl⟩
    let commands : List Command := [.register "echo" true (some echo),
      .register "hash" true (some echo), .register "echo" false none, .attachDigest none]
    let start := new none 4 false true none
    let s := start.run commands
    s.registry.names = Registry.seeds.map Prod.fst ++ ["echo"] ∧
    s.registry.get? "hash" = some .hash ∧
    (s.registry.get? "echo").map Handler.isSync = some true ∧
    (s.perform (.register "echo" true none)).2.result =
      .error (.violation ⟨"invalid_filter_handler", [("filter", .str "echo")]⟩) := by
  intro echo commands start s
  have haccepted : start.accepted commands = [⟨"echo", true, echo⟩] := rfl
  obtain ⟨⟨-, hnames⟩, hbound, -, hrefused, -⟩ := run_keeps_filters none 4 false true none commands
  obtain ⟨-, hhash, hregistered, -⟩ := hbound []
  rw [haccepted] at hnames
  refine ⟨hnames, hhash, ?_, ?_⟩
  · have hmem : ⟨"echo", true, echo⟩ ∈ start.accepted commands := by
      rw [haccepted]
      exact List.mem_singleton_self _
    exact (hregistered _ hmem).2
  · exact congrArg (·.2.result) (hrefused "echo" true none (by simp))

end Service

end UrlTemplate
