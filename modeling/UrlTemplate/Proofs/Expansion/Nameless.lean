import UrlTemplate.Proofs.Expansion.Dependence
import UrlTemplate.Proofs.Template.Unnamed

/-!
# Slots without a name in an expansion

A slot can lack a name in two ways. If it has no reference at all, it is malformed: it is reported
and nothing takes its place (`Expander.run_resolveSlot_of_noKey`). Chains of filters make no such
reports (`Registry.Shows.filter_isMalformed`), so those of a template are those of its own slots and
those of its branches, and by induction on the levels a successful expansion reports the slots
without reference node by node (`Expander.perm_isMalformed_expand`). The reports of a template and
of its branches come in the order of the slots, the list of nodes goes level by level, so the two
agree up to order.

If the reference only leaves the name out, the slot is a placeholder like any other, and the empty
name is looked up (`Scopes.empty_mem_referenced_iff`).

**Theorem** (`Service.expandWithin_nameless`): both for requests, with what the answer depends on.
-/

namespace UrlTemplate

open Template Observation

/-! ### What is read of a slot -/

namespace Template

variable {body : List Char}

/-- A slot without reference is malformed. -/
theorem readSlot_of_noKey (h : NoKey body) :
    readSlot body = .error (.noVariable (String.ofList (slotSource body))) :=
  Placeholder.parse_of_noKey _ (by rwa [String.toList_ofList])

/-- Every other slot is a placeholder, and it has a name unless that is left out. -/
theorem exists_readSlot_eq_ok (h : ¬ NoKey body) :
    ∃ p, readSlot body = .ok p ∧ (p.reference.name = "" ↔ NoName body) := by
  rw [← String.toList_ofList (l := body)] at h
  obtain ⟨p, hp, hname⟩ := Placeholder.exists_parse_eq_ok (String.ofList (slotSource body)) h
  exact ⟨p, hp, by rwa [String.toList_ofList] at hname⟩

/-- A placeholder has a reference, and a name unless that is left out. -/
theorem name_eq_empty_iff {p : Placeholder} (h : readSlot body = .ok p) :
    p.reference.name = "" ↔ NoName body := by
  by_cases hnone : NoKey body
  · rw [readSlot_of_noKey hnone] at h
    cases h
  · obtain ⟨p', hp', hname⟩ := exists_readSlot_eq_ok hnone
    rw [hp'] at h
    exact Except.ok.inj h ▸ hname

end Template

/-! ### Reports -/

/-- The details of the report of a slot without reference. -/
def missingDetails (body : List Char) : Fields :=
  let source := String.ofList (slotSource body)
  [("placeholder", .str source), ("error", .str (PlaceholderError.noVariable source).message)]

/-- The entry that reports a slot, if it has no reference. -/
def missing? (body : List Char) : Option LogEntry :=
  if NoKey body then
    some (Diagnostics.entry .error "invalid_placeholder" (missingDetails body))
  else none

/-- The entries that report the slots of a text that have no reference. -/
def missingEntries (text : String) : List LogEntry :=
  (scan text.toList).slots.filterMap fun slot => missing? slot.body

/-- Whether an entry reports a malformed placeholder. -/
def isMalformed (entry : LogEntry) : Bool :=
  entry.event = "invalid_placeholder"

/-- A chain of filters reports no malformed placeholder. -/
theorem Registry.Shows.filter_isMalformed {r : Registry} {os : List Observation} (h : r.Shows os) :
    (logs os).filter isMalformed = [] := by
  induction h with
  | nothing => rfl
  | @report event hevent details =>
    have hne : event ≠ "invalid_placeholder" := by
      rintro rfl
      revert hevent
      decide
    simpa [logs_userError, isMalformed, Diagnostics.entry] using hne
  | application name ok =>
    unfold countApplication
    cases r.context.recordMetrics <;> rfl
  | append has hbs ihas ihbs => rw [logs_append, List.filter_append, ihas, ihbs, List.append_nil]

/-- What is listed by rows and what is listed by columns is the same in another order. -/
theorem flatMap_swap_perm {α β γ : Type} (rows : List α) (columns : List β) (f : α → β → List γ) :
    (rows.flatMap fun a => columns.flatMap fun b => f a b).Perm
      (columns.flatMap fun b => rows.flatMap fun a => f a b) := by
  induction rows with
  | nil => simp
  | cons a rows ih =>
    simp only [List.flatMap_cons]
    exact (ih.append_left _).trans (List.flatMap_append_perm _ _ _)

namespace Expander

variable {x : Expander} {nested : List Char → Task} {body : List Char}

/-- A slot without reference is reported, and nothing takes its place. -/
theorem run_resolveSlot_of_noKey (h : NoKey body) :
    (x.resolveSlot nested body).run =
      ⟨x.registry.context.diagnostics.userError "invalid_placeholder"
        (missingDetails body), .ok ⟨[], false⟩⟩ := by
  rw [resolveSlot_of_malformed (readSlot_of_noKey h), Task.run_after, Task.run,
    Registry.observations_report, List.append_nil]
  rfl

/-- The end of a placeholder reports no malformed one. -/
theorem filter_isMalformed_filtered (p : Placeholder) (v : Value) (exhausted : Bool) :
    (logs (x.filtered p v exhausted).run.observations).filter isMalformed = [] := by
  have hchain := (x.registry.shows_applyFilters (.ready v) p.segments).filter_isMalformed
  have hcount : logs x.resolvedCount = [] := by
    unfold resolvedCount
    cases x.recordMetrics <;> rfl
  rw [run_filtered]
  cases (x.registry.applyFilters (.ready v) p.segments).2.readable with
  | error e => exact hchain
  | ok w => simpa [hcount] using hchain

/-- A slot that succeeds reports that it has no reference, or the malformed placeholders that are
nested in it. -/
theorem filter_isMalformed_resolveSlot {piece : Piece}
    (hok : (x.resolveSlot nested body).run.result = .ok piece) :
    (logs (x.resolveSlot nested body).run.observations).filter isMalformed =
      (missing? body).toList ++
        (x.scopes.branch? body).toList.flatMap fun branch =>
          (logs (nested branch.text.toList).run.observations).filter isMalformed := by
  by_cases hnone : NoKey body
  · rw [run_resolveSlot_of_noKey hnone, logs_userError, missing?, if_pos hnone,
      Scopes.branch?_of_malformed (readSlot_of_noKey hnone)]
    rfl
  · obtain ⟨p, hread, -⟩ := exists_readSlot_eq_ok hnone
    rw [filter_logs_resolveSlot_of_read filter_isMalformed_filtered hread hok, missing?,
      if_neg hnone]
    rfl

/-- A template that succeeds reports its slots without reference, and the malformed placeholders
that are nested in its slots. -/
theorem perm_isMalformed_expand_succ {fuel : Nat} {template : String} {piece : Piece}
    (hok : (x.expand (fuel + 1) template.toList).run.result = .ok piece) :
    ((logs (x.expand (fuel + 1) template.toList).run.observations).filter isMalformed).Perm
      (missingEntries template ++ (x.scopes.branches template).flatMap fun branch =>
        (logs (x.expand fuel branch.text.toList).run.observations).filter isMalformed) := by
  have hnote : ((withSlots [template]).map (noteEntry fuel)).filter isMalformed = [] := by
    rw [List.filter_eq_nil_iff]
    intro entry hentry
    obtain ⟨text, -, rfl⟩ := List.mem_map.mp hentry
    exact of_decide_eq_false rfl
  have hslots : (scan template.toList).slots.flatMap (fun slot =>
        (logs (x.resolveSlot (x.expand fuel) slot.body).run.observations).filter isMalformed) =
      (scan template.toList).slots.flatMap fun slot =>
        (missing? slot.body).toList ++ (x.scopes.branch? slot.body).toList.flatMap fun branch =>
          (logs (x.expand fuel branch.text.toList).run.observations).filter isMalformed := by
    refine List.flatMap_congr ?_
    intro slot hslot
    obtain ⟨inner, hinner, -⟩ := (slots_ok hok).2 slot hslot
    exact filter_isMalformed_resolveSlot hinner
  rw [filter_logs_expand_slots hok, hnote, List.nil_append, hslots, missingEntries, Scopes.branches,
    List.filterMap_eq_flatMap_toList, List.filterMap_eq_flatMap_toList, List.flatMap_assoc]
  exact (List.flatMap_append_perm _ _ _).symm

/-- **A successful expansion reports the slots without reference that stand in its nodes above the
last level, each of them once.** -/
theorem perm_isMalformed_expand {fuel : Nat} {template : String} {piece : Piece}
    (hok : (x.expand fuel template.toList).run.result = .ok piece) :
    ((logs (x.expand fuel template.toList).run.observations).filter isMalformed).Perm
      ((List.range fuel).flatMap fun depth =>
        (x.scopes.nodes depth template).flatMap missingEntries) := by
  induction fuel generalizing template piece with
  | zero =>
    rw [run_expand_zero, logs_userError]
    exact .nil
  | succ fuel ih =>
    have hbranches : ((x.scopes.branches template).flatMap fun branch =>
          (logs (x.expand fuel branch.text.toList).run.observations).filter isMalformed).Perm
        ((x.scopes.branches template).flatMap fun branch => (List.range fuel).flatMap fun depth =>
          (x.scopes.nodes depth branch.text).flatMap missingEntries) := by
      refine List.Perm.flatMap_left _ fun branch hbranch => ?_
      obtain ⟨inner, hinner, -⟩ := branch_ok hok hbranch
      exact ih hinner
    have hcolumns : (List.range fuel).flatMap (fun depth => (x.scopes.branches template).flatMap
          fun branch => (x.scopes.nodes depth branch.text).flatMap missingEntries) =
        (List.range fuel).flatMap fun depth =>
          (x.scopes.nodes (depth + 1) template).flatMap missingEntries := by
      refine List.flatMap_congr ?_
      intro depth _
      rw [Scopes.nodes_succ, List.flatMap_assoc]
    have hlevels : (List.range (fuel + 1)).flatMap (fun depth =>
          (x.scopes.nodes depth template).flatMap missingEntries) =
        missingEntries template ++ (List.range fuel).flatMap fun depth =>
          (x.scopes.nodes (depth + 1) template).flatMap missingEntries := by
      rw [List.range_succ_eq_map, List.flatMap_cons, List.flatMap_map]
      simp [Scopes.nodes]
    -- branch by branch becomes level by level
    have hbelow := hbranches.trans ((flatMap_swap_perm _ _ _).trans (.of_eq hcolumns))
    rw [hlevels]
    exact (perm_isMalformed_expand_succ hok).trans (hbelow.append_left _)

end Expander

/-! ### Names that are looked up -/

namespace Scopes

variable {scopes : Scopes} {levels : Nat} {template name : String}

/-- What is referred to is the name of a placeholder that is reached. -/
theorem exists_reaches_of_mem_referenced (h : name ∈ scopes.referenced levels template.toList) :
    ∃ p, scopes.Reaches levels template p ∧ p.reference.name = name := by
  induction levels generalizing template with
  | zero => cases h
  | succ levels ih =>
    obtain ⟨slot, hslot, hname⟩ := List.mem_flatMap.mp h
    unfold referencedBy at hname
    cases hread : readSlot slot.body with
    | error e =>
      rw [hread] at hname
      cases hname
    | ok p =>
      rw [hread] at hname
      obtain rfl | hdeeper := List.mem_cons.mp hname
      · exact ⟨p, .of_slot hslot hread, rfl⟩
      · split at hdeeper
        · rename_i text hres
          obtain ⟨p', hp', hname'⟩ := ih hdeeper
          have hbranch : ⟨p, text⟩ ∈ scopes.branches template :=
            List.mem_filterMap.mpr ⟨slot, hslot, branch?_of_text hread hres⟩
          exact ⟨p', hp'.of_branch hbranch, hname'⟩
        · cases hdeeper

/-- The empty name is looked up exactly for a slot whose name is left out. -/
theorem empty_mem_referenced_iff :
    "" ∈ scopes.referenced levels template.toList ↔
      ∃ depth < levels, ∃ node ∈ scopes.nodes depth template,
        ∃ slot ∈ (scan node.toList).slots, NoName slot.body := by
  constructor
  · intro h
    obtain ⟨p, ⟨depth, hdepth, node, hnode, slot, hslot, hread⟩, hname⟩ :=
      exists_reaches_of_mem_referenced h
    exact ⟨depth, hdepth, node, hnode, slot, hslot, (name_eq_empty_iff hread).mp hname⟩
  · rintro ⟨depth, hdepth, node, hnode, slot, hslot, hnone⟩
    have hreference : ¬ NoKey slot.body := by
      rw [NoKey, hnone]
      decide
    obtain ⟨p, hread, hname⟩ := exists_readSlot_eq_ok hreference
    have hreached : scopes.Reaches levels template p :=
      ⟨depth, hdepth, node, hnode, slot, hslot, hread⟩
    exact hname.mpr hnone ▸ hreached.mem_referenced

end Scopes

namespace Service

/-- An expansion that does not look up the empty name does not depend on what it stands for. -/
theorem expand_eq_of_empty_not_mem {s : Service} {request : Request} {template : String}
    (htemplate : request.template = .str template)
    (h : "" ∉ s.referenced request template) {scopes : Scopes}
    (hscopes : ∀ name, name ≠ "" → scopes.resolve name = request.scopes.resolve name) :
    s.expand { request with scopes } = s.expand request := by
  refine expand_eq_of_task (task_congr htemplate ⟨rfl, rfl, rfl, rfl⟩ scopes fun p hp => ⟨?_, ?_⟩)
  · refine hscopes _ ?_
    intro hname
    exact h (hname ▸ hp.mem_referenced)
  · exact fun _ _ _ _ => rfl

/-- **Slots without a name.** A body is malformed exactly if it has no reference, and every other
one is a placeholder, of which the name is empty exactly if it is left out. Every slot without
reference, on whatever level within the budget, is resolved by a task that reports it and leaves
nothing in its place, and an answer reports these slots, one by one, and no other placeholder. The
empty name is looked up exactly if the name of some slot within the budget is left out, and
otherwise the answer does not depend on what it stands for. -/
theorem expandWithin_nameless (s : Service) (template : String) (scopes : Scopes)
    (encode : Option Bool) (n : Int) :
    let request : Request := ⟨.str template, scopes, some n, encode⟩
    let x := s.expander request
    (∀ source body,
      (NoKey body.toList → Placeholder.parse source body = .error (.noVariable source)) ∧
      (¬ NoKey body.toList → ∃ p, Placeholder.parse source body = .ok p ∧
        (p.reference.name = "" ↔ NoName body.toList))) ∧
    (∀ depth : Nat, depth ≤ n → ∀ node ∈ scopes.nodes depth template,
      ∀ slot ∈ (scan node.toList).slots, NoKey slot.body →
        (s.task request).Starts (x.resolveSlot (x.expand (n - depth).toNat) slot.body) ∧
        (x.resolveSlot (x.expand (n - depth).toNat) slot.body).run =
          ⟨s.registry.context.diagnostics.userError "invalid_placeholder"
            (missingDetails slot.body), .ok ⟨[], false⟩⟩) ∧
    (∀ text, (s.expandWithin template scopes encode n).result = .ok text →
      ((logs (s.expandWithin template scopes encode n).observations).filter isMalformed).Perm
        ((List.range (n + 1).toNat).flatMap fun depth =>
          (scopes.nodes depth template).flatMap missingEntries)) ∧
    ("" ∈ s.referenced request template ↔
      ∃ depth : Nat, depth ≤ n ∧ ∃ node ∈ scopes.nodes depth template,
        ∃ slot ∈ (scan node.toList).slots, NoName slot.body) ∧
    ("" ∉ s.referenced request template → ∀ scopes' : Scopes,
      (∀ name, name ≠ "" → scopes'.resolve name = scopes.resolve name) →
      s.expandWithin template scopes' encode n = s.expandWithin template scopes encode n) := by
  intro request x
  have hlevels (depth : Nat) : depth < s.levels request ↔ (depth : Int) ≤ n := by
    show depth < (n + 1).toNat ↔ _
    omega
  refine ⟨?_, ?_, ?_, ?_, ?_⟩
  · exact fun source body =>
      ⟨Placeholder.parse_of_noKey source, Placeholder.exists_parse_eq_ok source⟩
  · intro depth hdepth node hnode slot hslot hnone
    refine ⟨?_, Expander.run_resolveSlot_of_noKey hnone⟩
    have hstarts := Expander.starts_resolveSlot (x := x) (n - depth).toNat hnode hslot
    have hfuel : depth + (n - depth).toNat + 1 = (n + 1).toNat := by omega
    rw [hfuel] at hstarts
    exact hstarts.bind _
  · intro text hok
    obtain ⟨piece, hpiece⟩ := exists_piece_of_expandWithin hok
    rw [logs_expandWithin]
    exact Expander.perm_isMalformed_expand hpiece
  · refine Scopes.empty_mem_referenced_iff.trans (exists_congr fun depth => ?_)
    rw [hlevels]
  · intro h scopes' hscopes
    exact expand_eq_of_empty_not_mem rfl h hscopes

/-- A variable whose text has a slot without reference, and the value of the empty name. -/
def namelessScopes : Scopes :=
  ⟨.object [("vars", .object [("box", .str "a${}b"), ("", .str "v")])], .null, .null⟩

/-- Two slots without reference, on two levels, and one whose name is left out. -/
theorem expandWithin_nameless_two_levels :
    let request : Request := ⟨.str "${ |trim}${(x)}${box}", namelessScopes, some 1, none⟩
    let os := (metered.expandWithin "${ |trim}${(x)}${box}" namelessScopes none 1).observations
    (metered.expandWithin "${ |trim}${(x)}${box}" namelessScopes none 1).result = .ok "v(x)ab" ∧
    ((logs os).filter isMalformed).Perm
      ([" |trim".toList, []].map fun body =>
        Diagnostics.entry .error "invalid_placeholder" (missingDetails body)) ∧
    "" ∈ metered.referenced request "${ |trim}${(x)}${box}" := by
  intro request os
  have hresult : (metered.expandWithin "${ |trim}${(x)}${box}" namelessScopes none 1).result =
      .ok "v(x)ab" := by
    cbv
  obtain ⟨-, -, hperm, hempty, -⟩ :=
    metered.expandWithin_nameless "${ |trim}${(x)}${box}" namelessScopes none 1
  have hmissing : (List.range 2).flatMap (fun depth =>
      (namelessScopes.nodes depth "${ |trim}${(x)}${box}").flatMap missingEntries) =
        [" |trim".toList, []].map fun body =>
          Diagnostics.entry .error "invalid_placeholder" (missingDetails body) := by
    decide +kernel
  refine ⟨hresult, (hperm _ hresult).trans (.of_eq hmissing), hempty.mpr ?_⟩
  exact ⟨0, by decide, _, List.mem_singleton_self _, ⟨[], "(x)".toList⟩, by decide +kernel,
    by decide⟩

/-- A slot that has a suffix and no name is a placeholder: the empty name is looked up, its value
takes the place of the slot, and nothing is reported. -/
theorem expandWithin_of_paren :
    (∃ p, Placeholder.parse "${(x)}" "(x)" = .ok p ∧ p.reference.name = "") ∧
    "" ∈ metered.referenced ⟨.str "${(x)}", namelessScopes, some 1, none⟩ "${(x)}" ∧
    (metered.expandWithin "${(x)}" namelessScopes none 1).result = .ok "v(x)" ∧
    (logs (metered.expandWithin "${(x)}" namelessScopes none 1).observations).filter
      isMalformed = [] := by
  have hreference : ¬ NoKey "(x)".toList := by decide
  have hname : NoName "(x)".toList := by decide
  obtain ⟨p, hparse, hempty⟩ := Placeholder.exists_parse_eq_ok "${(x)}" hreference
  have hresult : (metered.expandWithin "${(x)}" namelessScopes none 1).result = .ok "v(x)" := by
    cbv
  exact ⟨⟨p, hparse, hempty.mpr hname⟩, by decide +kernel, hresult, by decide +kernel⟩

end Service

end UrlTemplate
