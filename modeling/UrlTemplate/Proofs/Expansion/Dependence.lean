import UrlTemplate.Proofs.Expansion.Concurrency
import UrlTemplate.Proofs.Expansion.Tree
import UrlTemplate.Proofs.Scope.Merged
import UrlTemplate.Proofs.Session

/-!
# An expansion depends on what it reaches

The placeholders that a template reaches stand in its nodes above the last level of the expansion
tree (`Scopes.Reaches`); their variables are those that the template refers to through as many
levels (`Reaches.mem_referenced`). Two expanders that resolve these variables to the same values,
and have the same handlers, or none, for the filters that the placeholders call, have the same task:
chain by chain (`Registry.applyFilters_congr`), placeholder by placeholder
(`Expander.filtered_congr`), slot by slot (`Expander.resolveSlot_congr`), and level by level
(`Expander.expand_congr`). It is the task that is the same, and not only its run from left to right,
so the two expansions are the same under every scheduler.

**Theorem** (`Service.expand_eq_of_reached`): this for requests. As cases of it, three scopes can be
merged into one, entries that do not count as present make no difference, and neither do filters
that are registered and not called.
-/

namespace UrlTemplate

open Template Observation

namespace Scopes

/-- A placeholder stands in the template or, through some levels, in the text of a variable. -/
def Reaches (scopes : Scopes) (levels : Nat) (template : String) (p : Placeholder) : Prop :=
  ∃ depth < levels, ∃ node ∈ scopes.nodes depth template, ∃ slot ∈ (scan node.toList).slots,
    readSlot slot.body = .ok p

/-- No placeholder that is reached calls the filter of a name. -/
def NeverCalls (scopes : Scopes) (levels : Nat) (template filter : String) : Prop :=
  ∀ p, scopes.Reaches levels template p → ∀ segment ∈ p.segments, ¬ Calls filter segment

variable {scopes : Scopes} {levels : Nat} {template : String} {p : Placeholder}

/-- The placeholders of the template are reached. -/
theorem Reaches.of_slot {slot : Slot} (hslot : slot ∈ (scan template.toList).slots)
    (hread : readSlot slot.body = .ok p) : scopes.Reaches (levels + 1) template p :=
  ⟨0, Nat.succ_pos _, template, List.mem_singleton_self _, slot, hslot, hread⟩

/-- What a text below the template reaches is reached, one level further down. -/
theorem Reaches.of_branch {branch : Branch} (hbranch : branch ∈ scopes.branches template)
    (h : scopes.Reaches levels branch.text p) : scopes.Reaches (levels + 1) template p := by
  obtain ⟨depth, hdepth, node, hnode, hslot⟩ := h
  refine ⟨depth + 1, Nat.succ_lt_succ hdepth, node, ?_, hslot⟩
  rw [nodes_succ]
  exact List.mem_flatMap.mpr ⟨branch, hbranch, hnode⟩

/-- What a placeholder that is reached refers to is referred to. -/
theorem Reaches.mem_referenced (h : scopes.Reaches levels template p) :
    p.reference.name ∈ scopes.referenced levels template.toList := by
  obtain ⟨depth, hdepth, node, hnode, slot, hslot, hread⟩ := h
  induction depth generalizing levels template with
  | zero =>
    obtain ⟨levels, rfl⟩ := Nat.exists_eq_succ_of_ne_zero (Nat.ne_zero_of_lt hdepth)
    rw [nodes, List.mem_singleton] at hnode
    subst hnode
    refine List.mem_flatMap.mpr ⟨slot, hslot, ?_⟩
    simp only [referencedBy, hread]
    exact List.mem_cons_self
  | succ depth ih =>
    obtain ⟨levels, rfl⟩ := Nat.exists_eq_succ_of_ne_zero (Nat.ne_zero_of_lt hdepth)
    rw [nodes_succ] at hnode
    obtain ⟨branch, hbranch, hdeeper⟩ := List.mem_flatMap.mp hnode
    obtain ⟨outer, houter, hsome⟩ := List.mem_filterMap.mp hbranch
    obtain ⟨hread', hres⟩ := read_of_branch? hsome
    refine List.mem_flatMap.mpr ⟨outer, houter, ?_⟩
    simp only [referencedBy, hread', hres]
    exact List.mem_cons_of_mem _ (ih (Nat.lt_of_succ_lt_succ hdepth) hdeeper)

/-- What holds of all reached placeholders holds node by node and slot by slot. -/
theorem forall_reaches_iff {P : Placeholder → Prop} :
    (∀ p, scopes.Reaches levels template p → P p) ↔
      ∀ depth < levels, ∀ node ∈ scopes.nodes depth template,
        ∀ slot ∈ (scan node.toList).slots, ∀ p ∈ (readSlot slot.body).toOption, P p := by
  constructor
  · intro h depth hdepth node hnode slot hslot p hp
    exact h p ⟨depth, hdepth, node, hnode, slot, hslot, mem_toOption_readSlot.mp hp⟩
  · rintro h p ⟨depth, hdepth, node, hnode, slot, hslot, hread⟩
    exact h depth hdepth node hnode slot hslot p (mem_toOption_readSlot.mpr hread)

instance decidableNeverCalls (scopes : Scopes) (levels : Nat) (template filter : String) :
    Decidable (scopes.NeverCalls levels template filter) :=
  decidable_of_iff (∀ depth < levels, ∀ node ∈ scopes.nodes depth template,
      ∀ slot ∈ (scan node.toList).slots, ∀ p ∈ (readSlot slot.body).toOption,
        ∀ segment ∈ p.segments, ¬ Calls filter segment)
    forall_reaches_iff.symm

end Scopes

namespace Expander

/-- Two expanders that differ in their scopes and in their filters at most. -/
structure SameSettings (x x' : Expander) : Prop where
  context : x'.registry.context = x.registry.context
  encode : x'.encode = x.encode
  recordMetrics : x'.recordMetrics = x.recordMetrics

/-- Two expanders have the same value and the same handlers for a placeholder. -/
structure AgreeOn (x x' : Expander) (p : Placeholder) : Prop where
  /-- The variable has the same value. -/
  value : x'.scopes.resolve p.reference.name = x.scopes.resolve p.reference.name
  /-- A filter that is called has the same handler, or none. -/
  handlers : ∀ segment ∈ p.segments, ∀ filter, Calls filter segment →
    x'.registry.get? filter = x.registry.get? filter

variable {x x' : Expander} {p : Placeholder}

/-- The end of a placeholder depends on the filters that it calls. -/
theorem filtered_congr (hsettings : x.SameSettings x') (hp : x.AgreeOn x' p) (v : Value)
    (exhausted : Bool) : x'.filtered p v exhausted = x.filtered p v exhausted := by
  have htext : x'.finalText = x.finalText := by
    unfold finalText
    rw [hsettings.encode]
  unfold filtered
  rw [Registry.applyFilters_congr hsettings.context hp.handlers, hsettings.recordMetrics, htext]

/-- The task of a slot depends on its placeholder, and on what is nested in it. -/
theorem resolveSlot_congr (hsettings : x.SameSettings x') {nested nested' : List Char → Task}
    {body : List Char} (hp : ∀ p, readSlot body = .ok p → x.AgreeOn x' p)
    (hnested : ∀ branch, x.scopes.branch? body = some branch →
      nested' branch.text.toList = nested branch.text.toList) :
    x'.resolveSlot nested' body = x.resolveSlot nested body := by
  rcases reading x.scopes body with
    ⟨hread⟩ | ⟨hread, hres⟩ | @⟨p, text, hread, hres⟩ | ⟨hread, hres, hv⟩
  · rw [resolveSlot_of_malformed hread, resolveSlot_of_malformed hread,
      Registry.report_congr hsettings.context]
  · have hres' := (hp _ hread).value.trans hres
    rw [resolveSlot_of_fault hread hres, resolveSlot_of_fault hread hres']
  · have hres' := (hp _ hread).value.trans hres
    rw [resolveSlot_of_text hread hres, resolveSlot_of_text hread hres',
      hnested ⟨p, text⟩ (Scopes.branch?_of_text hread hres)]
    congr 1
    funext piece
    exact filtered_congr hsettings (hp p hread) _ _
  · have hres' := (hp _ hread).value.trans hres
    rw [resolveSlot_of_value hread hres hv, resolveSlot_of_value hread hres' hv]
    exact filtered_congr hsettings (hp _ hread) _ _

/-- **The task of a template depends on the placeholders that it reaches.** -/
theorem expand_congr (hsettings : x.SameSettings x') {levels : Nat} {template : String}
    (h : ∀ p, x.scopes.Reaches levels template p → x.AgreeOn x' p) :
    x'.expand levels template.toList = x.expand levels template.toList := by
  induction levels generalizing template with
  | zero =>
    rw [expand, expand, Registry.report_congr hsettings.context]
  | succ levels ih =>
    have hslots : (scan template.toList).slots.map
          (fun slot => x'.resolveSlot (x'.expand levels) slot.body) =
        (scan template.toList).slots.map
          (fun slot => x.resolveSlot (x.expand levels) slot.body) := by
      apply List.map_congr_left
      intro slot hslot
      apply resolveSlot_congr hsettings
      · intro p hread
        exact h p (.of_slot hslot hread)
      · intro branch hbranch
        apply ih
        intro p hreached
        exact h p (.of_branch (List.mem_filterMap.mpr ⟨slot, hslot, hbranch⟩) hreached)
    rw [expand, expand]
    simp only [hslots]

end Expander

/-! ### Requests -/

namespace Service

/-- Two services that differ in their filters at most. -/
structure SameDefaults (s s' : Service) : Prop where
  context : s'.registry.context = s.registry.context
  maxIterations : s'.maxIterations = s.maxIterations
  encode : s'.encode = s.encode
  recordMetrics : s'.recordMetrics = s.recordMetrics

/-- A placeholder that a request comes upon. -/
def Reaches (s : Service) (request : Request) (template : String) (p : Placeholder) : Prop :=
  request.scopes.Reaches (s.levels request) template p

/-- No placeholder that a request comes upon calls the filter of a name. -/
def NeverCalls (s : Service) (request : Request) (template filter : String) : Prop :=
  request.scopes.NeverCalls (s.levels request) template filter

variable {s s' : Service} {request : Request} {template : String}

/-- The task of a request depends on the placeholders that it comes upon. -/
theorem task_congr (htemplate : request.template = .str template) (hdefaults : s.SameDefaults s')
    (scopes : Scopes) (h : ∀ p, s.Reaches request template p →
      (s.expander request).AgreeOn (s'.expander { request with scopes }) p) :
    s'.task { request with scopes } = s.task request := by
  have hsettings : (s.expander request).SameSettings (s'.expander { request with scopes }) := by
    refine ⟨hdefaults.context, ?_, hdefaults.recordMetrics⟩
    unfold expander
    rw [hdefaults.encode]
  have hexpand := Expander.expand_congr hsettings h
  have hcounts : s'.finalCounts = s.finalCounts := by
    unfold finalCounts
    rw [hdefaults.recordMetrics]
  unfold task
  simp only [htemplate]
  rw [hcounts, hdefaults.maxIterations]
  exact congrArg
    (fun t : Task => t.bind fun piece => .after (s.finalCounts piece) (.done piece)) hexpand

/-- Requests with the same task get the same answer. -/
theorem expand_eq_of_task {request' : Request} (h : s'.task request' = s.task request) :
    s'.expand request' = s.expand request := by
  unfold expand
  rw [h]

/-- Requests with the same task show the same under all schedulers, in some order. -/
theorem perm_shown_of_task {request' : Request} (h : s'.task request' = s.task request)
    {steps steps' : List (Option Step)} {pool pool' : Pool}
    (hrun : (s.pool [request]).Run steps pool) (hrun' : (s'.pool [request']).Run steps' pool')
    (hall : pool.Succeeded) (hall' : pool'.Succeeded) :
    (Pool.shown steps').Perm (Pool.shown steps) := by
  have hshown := perm_shown hrun hall
  have hshown' := perm_shown hrun' hall'
  rw [List.flatMap_singleton] at hshown hshown'
  rw [expand_eq_of_task h] at hshown'
  exact hshown'.trans hshown.symm

/-- Registering filters that are never called does not change the task of a request. -/
theorem task_run_registrations (htemplate : request.template = .str template)
    {commands : List Command} (h : ∀ command ∈ commands, ∃ name sync handler,
      command = .register name sync handler ∧ s.NeverCalls request template name) :
    (s.run commands).task request = s.task request := by
  obtain ⟨added, hadded, hrun⟩ := s.run_registrations h
  have hdefaults : s.SameDefaults (s.run commands) := by
    rw [hrun]
    exact ⟨rfl, rfl, rfl, rfl⟩
  refine task_congr htemplate hdefaults request.scopes ?_
  intro p hp
  refine ⟨rfl, ?_⟩
  intro segment hsegment filter hcalls
  have hnone : added.lookup filter = none := by
    rw [List.lookup_eq_none_iff]
    intro entry hentry
    rw [bne_iff_ne]
    rintro rfl
    exact hadded entry hentry p hp segment hsegment hcalls
  have hfilters : (s.run commands).registry.filters = s.registry.filters ++ added := by
    rw [hrun]
  show (s.run commands).registry.filters.lookup filter = s.registry.filters.lookup filter
  rw [hfilters, List.lookup_append, hnone, Option.or_none]

/-- **An expansion depends on what it reaches: on the values of the variables that it refers to, and
on the handlers of the filters that it calls.** So it depends on the first present entry of every
name, which may as well stand in one scope; on no entry that does not count as present; and on no
filter that is registered and not called. -/
theorem expand_eq_of_reached (s : Service) (request : Request) {template : String}
    (htemplate : request.template = .str template) (hw : request.scopes.WellFormed) :
    (s.registry.ReturnsValues → ∃ text, (s.expand request).result = .ok text) ∧
    (∀ s' scopes, s.SameDefaults s' → scopes.WellFormed →
      (∀ name ∈ s.referenced request template,
        scopes.resolve name = request.scopes.resolve name) →
      (∀ p, s.Reaches request template p → ∀ segment ∈ p.segments, ∀ filter,
        Calls filter segment → s'.registry.get? filter = s.registry.get? filter) →
      s'.expand { request with scopes } = s.expand request ∧
      ∀ steps pool steps' pool', (s.pool [request]).Run steps pool →
        (s'.pool [{ request with scopes }]).Run steps' pool' →
        pool.Succeeded → pool'.Succeeded →
          pool'.tasks.map Task.answer? = pool.tasks.map Task.answer? ∧
          (logs (Pool.shown steps')).Perm (logs (Pool.shown steps)) ∧
          ∀ counter, tally (Pool.shown steps') counter = tally (Pool.shown steps) counter) ∧
    (∃ fields, (Entries.keys fields).Nodup ∧
      (∀ name, fields.lookup name = request.scopes.present? name) ∧
      s.expand { request with scopes := ⟨.object [("vars", .object fields)], .null, .null⟩ } =
        s.expand request) ∧
    (∀ scopes : Scopes, scopes.WellFormed →
      (∀ name ∈ s.referenced request template,
        presentIn? scopes.event name = presentIn? request.scopes.event name ∧
        presentIn? scopes.trigger name = presentIn? request.scopes.trigger name ∧
        presentIn? scopes.config name = presentIn? request.scopes.config name) →
      s.expand { request with scopes } = s.expand request) ∧
    ∀ commands, (∀ command ∈ commands, ∃ name sync handler,
        command = .register name sync handler ∧ s.NeverCalls request template name) →
      (s.run commands).expand request = s.expand request := by
  have htask {s' : Service} {scopes : Scopes} (hdefaults : s.SameDefaults s')
      (hvalues : ∀ name ∈ s.referenced request template,
        scopes.resolve name = request.scopes.resolve name)
      (hfilters : ∀ p, s.Reaches request template p → ∀ segment ∈ p.segments, ∀ filter,
        Calls filter segment → s'.registry.get? filter = s.registry.get? filter) :
      s'.task { request with scopes } = s.task request := by
    apply task_congr htemplate hdefaults scopes
    intro p hp
    exact ⟨hvalues _ hp.mem_referenced, hfilters p hp⟩
  -- the same service in other scopes
  have hscopes {scopes : Scopes} (hvalues : ∀ name ∈ s.referenced request template,
      scopes.resolve name = request.scopes.resolve name) :
      s.expand { request with scopes } = s.expand request :=
    expand_eq_of_task (htask ⟨rfl, rfl, rfl, rfl⟩ hvalues fun _ _ _ _ _ _ => rfl)
  refine ⟨fun hr => s.expand_succeeds hr request hw htemplate, ?_, ?_, ?_, ?_⟩
  · intro s' scopes hdefaults _ hvalues hfilters
    have hsame := htask hdefaults hvalues hfilters
    refine ⟨expand_eq_of_task hsame, ?_⟩
    intro steps pool steps' pool' hrun hrun' hall hall'
    have hanswers := answers_of_run hrun' hall'
    rw [List.map_singleton, expand_eq_of_task hsame] at hanswers
    have hperm := perm_shown_of_task hsame hrun hrun' hall hall'
    exact ⟨hanswers.trans (answers_of_run hrun hall).symm, perm_logs hperm,
      tally_eq_of_perm hperm⟩
  · refine ⟨request.scopes.presentFields, request.scopes.nodup_keys_presentFields,
      request.scopes.lookup_presentFields, ?_⟩
    apply hscopes
    intro name _
    exact hw.resolve_merged name
  · intro scopes hw' hpresent
    apply hscopes
    intro name hname
    obtain ⟨hevent, htrigger, hconfig⟩ := hpresent name hname
    apply hw.resolve_congr hw'
    unfold Scopes.present? Scopes.inOrder
    simp only [List.findSome?_cons, hevent, htrigger, hconfig]
  · intro commands hcommands
    exact expand_eq_of_task (task_run_registrations htemplate hcommands)

/-- The variables of the template may stand in a lower scope, below entries that do not count as
present and beside others that nothing refers to, and a filter that nothing calls may be there. -/
theorem expand_eq_of_reached_in_lower_scope :
    let request : Request := ⟨.str "${site|trim}", nestedScopes, none, none⟩
    let lower : Scopes :=
      ⟨.object [("vars", .object [("path", .int 0), ("site", .str "")])], nestedScopes.event,
        .object [("vars", .object [("spare", .str "s")])]⟩
    let commands : List Command :=
      [.register "shout" true (some ⟨.sync fun item _ => .ok item, rfl⟩)]
    (metered.expand request).result = .ok "/7" ∧
    (metered.expand { request with scopes := lower }).result = .ok "/7" ∧
    ((metered.run commands).expand request).result = .ok "/7" := by
  intro request lower commands
  have hresult : (metered.expand request).result = .ok "/7" := by
    cbv
  have hvalues : ∀ name ∈ metered.referenced request "${site|trim}",
      lower.resolve name = request.scopes.resolve name := by
    decide +kernel
  have hnever : nestedScopes.NeverCalls 5 "${site|trim}" "shout" := by
    decide +kernel
  have hw : request.scopes.WellFormed := by
    decide
  obtain ⟨-, hagree, -, -, hregister⟩ := metered.expand_eq_of_reached request rfl hw
  have hlower := (hagree metered lower ⟨rfl, rfl, rfl, rfl⟩ (by decide) hvalues
    fun _ _ _ _ _ _ => rfl).1
  have hmore := hregister commands <| by
    intro command hcommand
    rw [List.mem_singleton.mp hcommand]
    exact ⟨"shout", true, _, rfl, hnever⟩
  exact ⟨hresult, (congrArg Outcome.result hlower).trans hresult,
    (congrArg Outcome.result hmore).trans hresult⟩

end Service

end UrlTemplate
