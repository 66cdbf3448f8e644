import UrlTemplate.Proofs.Expansion.Budget
import UrlTemplate.Proofs.Expansion.Containment

/-!
# The expansion tree, and what the depth budget costs

The texts that an expansion comes upon form a tree: the template is its root, and below a text stand
the texts of the variables that its slots refer to (`Scopes.branches`, level by level
`Scopes.nodes`). A successful expansion accounts for this tree exactly. It reports every node below
its last level, and no other (`Expander.reports_expand`); it notes every node above that has a slot,
with the levels that are left there (`Expander.notes_expand`); and its piece is exhausted exactly if
there is a node below the last level (`Expander.exhausted_iff_nodes`).

Where the levels run out, the filters of a placeholder get its text as it stands
(`Expander.cutOff`). `Task.Starts` says that a task starts another one in its course, and
`Expander.starts_resolveSlot` that an expansion starts a task for every slot of every node, with the
levels that are left below that node.

**Theorem** (`Service.expandWithin_accounts`): all of this for requests, whose end is counted once,
by whether the budget has run out anywhere.
-/

namespace UrlTemplate

open Template Observation

/-! ### The tree -/

/-- A placeholder whose variable is a text, with that text. -/
structure Branch where
  placeholder : Placeholder
  text : String
deriving DecidableEq, Repr

namespace Scopes

/-- The branch at a slot: there is one if the slot is a placeholder and its variable is a text. -/
def branch? (scopes : Scopes) (body : List Char) : Option Branch :=
  match readSlot body with
  | .error _ => none
  | .ok p =>
    match scopes.resolve p.reference.name with
    | .ok (.str text) => some ⟨p, text⟩
    | _ => none

/-- The branches at the slots of a template. -/
def branches (scopes : Scopes) (template : String) : List Branch :=
  (scan template.toList).slots.filterMap fun slot => scopes.branch? slot.body

/-- The texts at a depth of the expansion tree of a template, from left to right: the template
itself, and then, level by level, the texts of the branches. -/
def nodes (scopes : Scopes) : (depth : Nat) → (template : String) → List String
  | 0, template => [template]
  | depth + 1, template =>
    (scopes.nodes depth template).flatMap fun node => (scopes.branches node).map Branch.text

variable {scopes : Scopes} {body : List Char}

/-- A malformed slot has no branch. -/
theorem branch?_of_malformed {e : PlaceholderError} (h : readSlot body = .error e) :
    scopes.branch? body = none := by
  simp only [branch?, h]

/-- A placeholder whose variable is a text has a branch. -/
theorem branch?_of_text {p : Placeholder} {text : String} (h : readSlot body = .ok p)
    (hres : scopes.resolve p.reference.name = .ok (.str text)) :
    scopes.branch? body = some ⟨p, text⟩ := by
  simp only [branch?, h, hres]

/-- A placeholder whose variable is no text has no branch. -/
theorem branch?_of_not_text {p : Placeholder} (h : readSlot body = .ok p)
    (hres : ∀ text, scopes.resolve p.reference.name ≠ .ok (.str text)) :
    scopes.branch? body = none := by
  simp only [branch?, h]

/-- A branch comes from a placeholder whose variable is its text. -/
theorem read_of_branch? {branch : Branch} (h : scopes.branch? body = some branch) :
    readSlot body = .ok branch.placeholder ∧
      scopes.resolve branch.placeholder.reference.name = .ok (.str branch.text) := by
  cases hread : readSlot body with
  | error e =>
    rw [branch?_of_malformed hread] at h
    cases h
  | ok p =>
    by_cases htext : ∃ text, scopes.resolve p.reference.name = .ok (.str text)
    · obtain ⟨text, hres⟩ := htext
      rw [branch?_of_text hread hres] at h
      cases h
      exact ⟨rfl, hres⟩
    · rw [branch?_of_not_text hread fun text hres => htext ⟨text, hres⟩] at h
      cases h

/-- The nodes one level deeper are the nodes of the trees below the branches of the template. -/
theorem nodes_succ (scopes : Scopes) (depth : Nat) (template : String) :
    scopes.nodes (depth + 1) template =
      (scopes.branches template).flatMap fun branch => scopes.nodes depth branch.text := by
  induction depth with
  | zero =>
    have htexts (branches : List Branch) :
        branches.map Branch.text = branches.flatMap fun branch => [branch.text] :=
      List.map_eq_flatMap
    simp only [nodes, List.flatMap_cons, List.flatMap_nil, List.append_nil, htexts]
  | succ depth ih =>
    rw [nodes, ih, List.flatMap_assoc]
    rfl

end Scopes

/-! ### What a slot shows -/

/-- The entry that reports a text for the lack of levels. -/
def depthEntry (text : String) : LogEntry :=
  Diagnostics.entry .error "max_depth_reached"
    [("detail", .str Expander.depthDetail), ("template", .str text)]

/-- The entry that notes the expansion of a text, with the number of its slots and of the levels
left below it. -/
def noteEntry (left : Int) (text : String) : LogEntry :=
  Diagnostics.entry .debug "expanding_template"
    [("placeholders", .int (scan text.toList).slots.length), ("iterations", .int left)]

/-- Whether an entry notes an expansion below which a number of levels is left. -/
def isNoteAt (left : Int) (entry : LogEntry) : Bool :=
  entry.event = "expanding_template" ∧ entry.context.lookup "iterations" = some (.int left)

/-- The notes of expansions below which a number of levels is left. -/
def Observation.notesAt (left : Int) (os : List Observation) : List LogEntry :=
  (logs os).filter (isNoteAt left)

/-- The texts that have slots. -/
def withSlots (texts : List String) : List String :=
  texts.filter fun text => (scan text.toList).slots ≠ []

/-- Notes tell the levels that are left below their texts. -/
theorem filter_map_noteEntry (left left' : Int) (texts : List String) :
    (texts.map (noteEntry left')).filter (isNoteAt left) =
      if left' = left then texts.map (noteEntry left) else [] := by
  by_cases h : left' = left
  · subst h
    rw [if_pos rfl, List.filter_eq_self]
    intro entry hentry
    obtain ⟨text, -, rfl⟩ := List.mem_map.mp hentry
    exact decide_eq_true ⟨rfl, rfl⟩
  · rw [if_neg h, List.filter_eq_nil_iff]
    intro entry hentry hnote
    obtain ⟨text, -, rfl⟩ := List.mem_map.mp hentry
    have hlookup : some (Value.int left') = some (.int left) := (of_decide_eq_true hnote).2
    exact h (Value.int.inj (Option.some.inj hlookup))

/-- The entries of what a slot shows by itself are about problems that a slot can have. -/
theorem Observation.filter_logs_own {q : LogEntry → Bool}
    (hq : ∀ entry, q entry = true → entry.event ∉ slotProblems) {os : List Observation}
    (h : ∀ o ∈ os, o.Own) : (logs os).filter q = [] := by
  rw [List.filter_eq_nil_iff]
  intro entry hentry hqentry
  obtain ⟨o, ho, hlog⟩ := List.mem_filterMap.mp hentry
  cases h o ho with
  | problem hevent context =>
    cases hlog
    exact hq _ hqentry hevent
  | diagnosed event => cases hlog
  | applied name ok => cases hlog
  | resolved => cases hlog

namespace Expander

variable {x : Expander} {q : LogEntry → Bool}

/-- A placeholder that succeeds shows, apart from what its end shows, what is nested in it. -/
theorem filter_logs_resolveSlot_of_read
    (hq : ∀ p v exhausted, (logs (x.filtered p v exhausted).run.observations).filter q = [])
    {nested : List Char → Task} {body : List Char} {piece : Piece} {p : Placeholder}
    (hread : readSlot body = .ok p) (hok : (x.resolveSlot nested body).run.result = .ok piece) :
    (logs (x.resolveSlot nested body).run.observations).filter q =
      (x.scopes.branch? body).toList.flatMap fun branch =>
        (logs (nested branch.text.toList).run.observations).filter q := by
  cases reading x.scopes body with
  | malformed hread' => cases hread.symm.trans hread'
  | fault hread hres =>
    rw [resolveSlot_of_fault hread hres, Task.run] at hok
    cases hok
  | @text p s hread hres =>
    rw [resolveSlot_of_text hread hres, Task.run_bind] at hok ⊢
    cases hnested : (nested s.toList).run.result with
    | error e =>
      rw [Outcome.andThen_of_error hnested] at hok
      cases hok
    | ok inner =>
      rw [Outcome.andThen_of_ok hnested, Scopes.branch?_of_text hread hres, logs_append,
        List.filter_append, hq, List.append_nil]
      simp only [Option.toList_some, List.flatMap_cons, List.flatMap_nil, List.append_nil]
  | @value p v hread hres hv =>
    have hnone : x.scopes.branch? body = none := by
      refine Scopes.branch?_of_not_text hread ?_
      intro text htext
      rw [hres, Except.ok.injEq] at htext
      exact hv text htext
    rw [resolveSlot_of_value hread hres hv, hnone]
    exact hq p v false

/-- A slot that succeeds shows, apart from what it shows by itself, what is nested in it. -/
theorem filter_logs_resolveSlot (hq : ∀ entry, q entry = true → entry.event ∉ slotProblems)
    {nested : List Char → Task} {body : List Char} {piece : Piece}
    (hok : (x.resolveSlot nested body).run.result = .ok piece) :
    (logs (x.resolveSlot nested body).run.observations).filter q =
      (x.scopes.branch? body).toList.flatMap fun branch =>
        (logs (nested branch.text.toList).run.observations).filter q := by
  cases hread : readSlot body with
  | error e =>
    have hproblem : "invalid_placeholder" ∈ slotProblems := by decide
    rw [resolveSlot_of_malformed hread, Scopes.branch?_of_malformed hread, Task.run_after, Task.run,
      List.append_nil, Registry.observations_report]
    exact filter_logs_own hq (Diagnostics.own_userError hproblem _ _)
  | ok p =>
    exact filter_logs_resolveSlot_of_read
      (fun p v exhausted => filter_logs_own hq (own_filtered p v exhausted)) hread hok

/-- What is nested in a slot that succeeds has succeeded, and the slot hands on whether the levels
ran out there. -/
theorem nested_ok_of_branch? {nested : List Char → Task} {body : List Char} {piece : Piece}
    (hok : (x.resolveSlot nested body).run.result = .ok piece) {branch : Branch}
    (hbranch : x.scopes.branch? body = some branch) :
    ∃ inner, (nested branch.text.toList).run.result = .ok inner ∧
      piece.exhausted = inner.exhausted := by
  obtain ⟨hread, hres⟩ := Scopes.read_of_branch? hbranch
  rw [resolveSlot_of_text hread hres, Task.run_bind] at hok
  cases hnested : (nested branch.text.toList).run.result with
  | error e =>
    rw [Outcome.andThen_of_error hnested] at hok
    cases hok
  | ok inner =>
    rw [Outcome.andThen_of_ok hnested] at hok
    exact ⟨inner, rfl, x.exhausted_of_filtered hok⟩

/-! ### What a template shows -/

variable {fuel : Nat} {template : String} {piece : Piece}

/-- The slots of a template that succeeds have succeeded, and the template is exhausted if one of
them is. -/
theorem slots_ok (hok : (x.expand (fuel + 1) template.toList).run.result = .ok piece) :
    (Task.runAll (x.slotTasks fuel template.toList)).observations =
      (scan template.toList).slots.flatMap (fun slot =>
        (x.resolveSlot (x.expand fuel) slot.body).run.observations) ∧
    ∀ slot ∈ (scan template.toList).slots, ∃ inner,
      (x.resolveSlot (x.expand fuel) slot.body).run.result = .ok inner ∧
        (inner.exhausted = true → piece.exhausted = true) := by
  rw [result_expand_succ] at hok
  cases hall : (Task.runAll (x.slotTasks fuel template.toList)).result with
  | error e =>
    rw [hall] at hok
    cases hok
  | ok pieces =>
    rw [hall] at hok
    refine ⟨?_, ?_⟩
    · rw [Task.observations_runAll_of_ok hall]
      unfold slotTasks
      rw [List.flatMap_map]
    · intro slot hslot
      have hresults := Task.runAll_eq_ok_iff.mp hall
      have hmem : (x.resolveSlot (x.expand fuel) slot.body).run.result ∈
          (x.slotTasks fuel template.toList).map (·.run.result) :=
        List.mem_map_of_mem (List.mem_map_of_mem hslot)
      rw [hresults] at hmem
      obtain ⟨inner, hinner, heq⟩ := List.mem_map.mp hmem
      refine ⟨inner, heq.symm, ?_⟩
      intro hexhausted
      rw [← Except.ok.inj hok]
      exact List.any_eq_true.mpr ⟨inner, hinner, hexhausted⟩

/-- The texts below a template that succeeds have succeeded, and the template is exhausted if one of
them is. -/
theorem branch_ok (hok : (x.expand (fuel + 1) template.toList).run.result = .ok piece)
    {branch : Branch} (hbranch : branch ∈ x.scopes.branches template) :
    ∃ inner, (x.expand fuel branch.text.toList).run.result = .ok inner ∧
      (inner.exhausted = true → piece.exhausted = true) := by
  obtain ⟨slot, hslot, hsome⟩ := List.mem_filterMap.mp hbranch
  obtain ⟨outer, houter, hout⟩ := (slots_ok hok).2 slot hslot
  obtain ⟨inner, hinner, hexhausted⟩ := nested_ok_of_branch? houter hsome
  refine ⟨inner, hinner, ?_⟩
  intro h
  exact hout (hexhausted.trans h)

/-- A template that succeeds shows its note, if it has slots, and what its slots show. -/
theorem filter_logs_expand_slots
    (hok : (x.expand (fuel + 1) template.toList).run.result = .ok piece) :
    (logs (x.expand (fuel + 1) template.toList).run.observations).filter q =
      ((withSlots [template]).map (noteEntry fuel)).filter q ++
        (scan template.toList).slots.flatMap fun slot =>
          (logs (x.resolveSlot (x.expand fuel) slot.body).run.observations).filter q := by
  by_cases hslots : (scan template.toList).slots = []
  · have hnone : withSlots [template] = [] := List.filter_cons_of_neg (by simpa using hslots)
    rw [run_expand_of_no_slots hslots, hslots, hnone]
    rfl
  · have hone : withSlots [template] = [template] := List.filter_cons_of_pos (by simpa using hslots)
    have hnote : ∀ os, logs (Diagnostics.debug "expanding_template"
        [("placeholders", .int (scan template.toList).slots.length), ("iterations", .int fuel)]
          :: os) = [template].map (noteEntry fuel) ++ logs os := fun _ => rfl
    rw [run_expand_of_slots hslots, (slots_ok hok).1, hone, hnote, List.filter_append,
      logs_flatMap, List.filter_flatMap]

/-- A template that succeeds shows, apart from what its slots show by themselves, its note if it has
slots, and what is nested in it. -/
theorem filter_logs_expand_succ (hq : ∀ entry, q entry = true → entry.event ∉ slotProblems)
    (hok : (x.expand (fuel + 1) template.toList).run.result = .ok piece) :
    (logs (x.expand (fuel + 1) template.toList).run.observations).filter q =
      ((withSlots [template]).map (noteEntry fuel)).filter q ++
        (x.scopes.branches template).flatMap fun branch =>
          (logs (x.expand fuel branch.text.toList).run.observations).filter q := by
  rw [filter_logs_expand_slots hok, Scopes.branches, List.filterMap_eq_flatMap_toList,
    List.flatMap_assoc]
  congr 1
  refine List.flatMap_congr ?_
  intro slot hslot
  obtain ⟨inner, hinner, -⟩ := (slots_ok hok).2 slot hslot
  exact filter_logs_resolveSlot hq hinner

/-! ### What a successful expansion accounts for -/

/-- **An expansion reports the nodes below its last level, and no other.** -/
theorem reports_expand (hok : (x.expand fuel template.toList).run.result = .ok piece) :
    (logs (x.expand fuel template.toList).run.observations).filter
        (·.event = "max_depth_reached") =
      (x.scopes.nodes fuel template).map depthEntry := by
  induction fuel generalizing template piece with
  | zero =>
    rw [run_expand_zero, String.ofList_toList, logs_userError]
    rfl
  | succ fuel ih =>
    have hq : ∀ entry : LogEntry, decide (entry.event = "max_depth_reached") = true →
        entry.event ∉ slotProblems := by
      intro entry hentry
      rw [of_decide_eq_true hentry]
      decide
    have hnotes : ((withSlots [template]).map (noteEntry fuel)).filter
        (fun entry => decide (entry.event = "max_depth_reached")) = [] := by
      rw [List.filter_map, List.map_eq_nil_iff, List.filter_eq_nil_iff]
      intro text _
      exact of_decide_eq_false rfl
    rw [filter_logs_expand_succ hq hok, hnotes, List.nil_append, Scopes.nodes_succ,
      List.map_flatMap]
    refine List.flatMap_congr ?_
    intro branch hbranch
    obtain ⟨inner, hinner, -⟩ := branch_ok hok hbranch
    exact ih hinner

/-- An expansion notes its template, if that has slots, and what is nested in it. -/
theorem notesAt_expand_succ (hok : (x.expand (fuel + 1) template.toList).run.result = .ok piece)
    (left : Int) :
    notesAt left (x.expand (fuel + 1) template.toList).run.observations =
      (if (fuel : Int) = left then (withSlots [template]).map (noteEntry left) else []) ++
        (x.scopes.branches template).flatMap fun branch =>
          notesAt left (x.expand fuel branch.text.toList).run.observations := by
  have hq : ∀ entry, isNoteAt left entry = true → entry.event ∉ slotProblems := by
    intro entry hentry
    rw [(of_decide_eq_true hentry).1]
    decide
  rw [← filter_map_noteEntry]
  exact filter_logs_expand_succ hq hok

/-- **An expansion notes the nodes above its last level that have slots, each with the levels that
are left below it, and nothing else.** -/
theorem notes_expand (hok : (x.expand fuel template.toList).run.result = .ok piece) (left : Int) :
    notesAt left (x.expand fuel template.toList).run.observations =
      if 0 ≤ left ∧ left < fuel then
        (withSlots (x.scopes.nodes (fuel - 1 - left).toNat template)).map (noteEntry left)
      else [] := by
  induction fuel generalizing template piece with
  | zero =>
    rw [if_neg (by omega), run_expand_zero, notesAt, logs_userError]
    rfl
  | succ fuel ih =>
    have hdeeper : (x.scopes.branches template).flatMap (fun branch =>
          notesAt left (x.expand fuel branch.text.toList).run.observations) =
        if 0 ≤ left ∧ left < fuel then
          (withSlots (x.scopes.nodes ((fuel - 1 - left).toNat + 1) template)).map (noteEntry left)
        else [] := by
      have hbranches : ∀ branch ∈ x.scopes.branches template,
          notesAt left (x.expand fuel branch.text.toList).run.observations =
            if 0 ≤ left ∧ left < fuel then
              (withSlots (x.scopes.nodes (fuel - 1 - left).toNat branch.text)).map (noteEntry left)
            else [] := by
        intro branch hbranch
        obtain ⟨inner, hinner, -⟩ := branch_ok hok hbranch
        exact ih hinner
      rw [List.flatMap_congr hbranches]
      split
      · simp only [Scopes.nodes_succ, withSlots, List.filter_flatMap, List.map_flatMap]
      · exact List.flatMap_eq_nil_iff.mpr fun branch _ => rfl
    rw [notesAt_expand_succ hok, hdeeper]
    rcases lt_trichotomy left fuel with hlt | rfl | hgt
    · -- the note is one of a node below the template, or there is none
      have hdepth (h : 0 ≤ left) :
          ((fuel + 1 : Nat) - 1 - left : Int).toNat = (fuel - 1 - left).toNat + 1 := by
        omega
      rw [if_neg (by omega), List.nil_append]
      by_cases hleft : 0 ≤ left
      · rw [if_pos ⟨hleft, hlt⟩, if_pos (by omega), hdepth hleft]
      · rw [if_neg (by omega), if_neg (by omega)]
    · -- the note is that of the template itself
      have hdepth : ((fuel + 1 : Nat) - 1 - fuel : Int).toNat = 0 := by
        omega
      rw [if_pos rfl, if_neg (by omega), if_pos (by omega), hdepth, List.append_nil, Scopes.nodes]
    · rw [if_neg (by omega), if_neg (by omega), if_neg (by omega), List.nil_append]

/-- Reports of some texts say that the budget has run out exactly if there is a text. -/
theorem ranOut_iff_of_reports {os : List Observation} {texts : List String}
    (h : (logs os).filter (·.event = "max_depth_reached") = texts.map depthEntry) :
    RanOut os ↔ texts ≠ [] := by
  constructor
  · rintro ⟨entry, hentry, hevent⟩ hnil
    have hmem : entry ∈ texts.map depthEntry := by
      rw [← h]
      exact List.mem_filter.mpr ⟨(List.mem_filter.mp hentry).1, decide_eq_true hevent⟩
    rw [hnil] at hmem
    cases hmem
  · intro htexts
    obtain ⟨text, htext⟩ := List.exists_mem_of_ne_nil _ htexts
    have hmem := List.mem_map_of_mem (f := depthEntry) htext
    rw [← h] at hmem
    have hlog := (List.mem_filter.mp hmem).1
    exact ⟨depthEntry text, List.mem_filter.mpr ⟨hlog, rfl⟩, rfl⟩

/-- **A piece is exhausted exactly if there is a node below the last level.** -/
theorem exhausted_iff_nodes (hok : (x.expand fuel template.toList).run.result = .ok piece) :
    piece.exhausted = true ↔ x.scopes.nodes fuel template ≠ [] := by
  constructor
  · intro hexhausted
    have hran := admits_expand fuel template.toList piece hok hexhausted
    exact (ranOut_iff_of_reports (reports_expand hok)).mp hran
  · intro hnodes
    induction fuel generalizing template piece with
    | zero =>
      rw [run_expand_zero] at hok
      rw [← Except.ok.inj hok]
    | succ fuel ih =>
      rw [Scopes.nodes_succ] at hnodes
      obtain ⟨node, hnode⟩ := List.exists_mem_of_ne_nil _ hnodes
      obtain ⟨branch, hbranch, hdeeper⟩ := List.mem_flatMap.mp hnode
      obtain ⟨inner, hinner, hexhausted⟩ := branch_ok hok hbranch
      exact hexhausted (ih hinner (List.ne_nil_of_mem hdeeper))

end Expander

/-! ### Tasks that a task starts -/

namespace Task

/-- The first task starts the second one as a subtask in its course. -/
inductive Starts : Task → Task → Prop
  | child {children : List Task} {join : List Piece → Task} {t : Task} (h : t ∈ children) :
      Starts (.fork children join) t
  | deeper {children : List Task} {join : List Piece → Task} {t u : Task} (h : t ∈ children) :
      Starts t u → Starts (.fork children join) u
  | joined {children : List Task} {join : List Piece → Task} {pieces : List Piece} {t : Task}
      (h : (runAll children).result = .ok pieces) :
      Starts (join pieces) t → Starts (.fork children join) t
  | step {s : Step} {next t : Task} : Starts next t → Starts (.step s next) t

/-- What a task starts is started too if something follows it. -/
theorem Starts.bind {t u : Task} (h : t.Starts u) (k : Piece → Task) : (t.bind k).Starts u := by
  induction h with
  | child hmem => exact .child hmem
  | deeper hmem hstarts ih => exact .deeper hmem hstarts
  | joined hpieces hstarts ih => exact .joined hpieces ih
  | step hstarts ih => exact .step ih

/-- What follows a task follows the steps that are taken before it. -/
theorem bind_after (steps : List Step) (next : Task) (k : Piece → Task) :
    (after steps next).bind k = after steps (next.bind k) := by
  induction steps with
  | nil => rfl
  | cons s steps ih => exact congrArg (Task.step s) ih

end Task

namespace Expander

variable (x : Expander)

/-- The task of a slot whose text is beyond the last level: the text is reported, and the filters
get it as it stands. -/
def cutOff (branch : Branch) : Task :=
  .after (x.registry.report "max_depth_reached"
      [("detail", .str depthDetail), ("template", .str branch.text)])
    (x.filtered branch.placeholder (.str branch.text) true)

variable {x}

/-- With no levels left, the text of a slot is cut off. -/
theorem resolveSlot_zero {body : List Char} {branch : Branch}
    (h : x.scopes.branch? body = some branch) :
    x.resolveSlot (x.expand 0) body = x.cutOff branch := by
  obtain ⟨hread, hres⟩ := Scopes.read_of_branch? h
  rw [resolveSlot_of_text hread hres, expand, Task.bind_after, Task.bind, String.ofList_toList]
  rfl

/-- A template with slots notes them and starts a task for each. -/
theorem expand_of_slots {fuel : Nat} {template : List Char} (h : (scan template).slots ≠ []) :
    x.expand (fuel + 1) template =
      .step (.observe (Diagnostics.debug "expanding_template"
          [("placeholders", .int (scan template).slots.length), ("iterations", .int fuel)]))
        (.fork (x.slotTasks fuel template) fun pieces =>
          .done (splice (scan template) pieces)) := by
  rw [expand]
  simp only [h, if_false]
  rfl

/-- **An expansion starts a task for every slot of every node, with the levels that are left below
that node.** -/
theorem starts_resolveSlot (fuel : Nat) {depth : Nat} {template node : String} {slot : Slot}
    (hnode : node ∈ x.scopes.nodes depth template) (hslot : slot ∈ (scan node.toList).slots) :
    (x.expand (depth + fuel + 1) template.toList).Starts
      (x.resolveSlot (x.expand fuel) slot.body) := by
  induction depth generalizing template with
  | zero =>
    rw [Scopes.nodes, List.mem_singleton] at hnode
    subst hnode
    rw [Nat.zero_add, expand_of_slots (List.ne_nil_of_mem hslot)]
    exact .step (.child (List.mem_map_of_mem hslot))
  | succ depth ih =>
    rw [Scopes.nodes_succ] at hnode
    obtain ⟨branch, hbranch, hdeeper⟩ := List.mem_flatMap.mp hnode
    obtain ⟨outer, houter, hsome⟩ := List.mem_filterMap.mp hbranch
    obtain ⟨hread, hres⟩ := Scopes.read_of_branch? hsome
    have hlevels : depth + 1 + fuel + 1 = (depth + fuel + 1) + 1 := by
      omega
    have htask : (x.resolveSlot (x.expand (depth + fuel + 1)) outer.body).Starts
        (x.resolveSlot (x.expand fuel) slot.body) := by
      rw [resolveSlot_of_text hread hres]
      exact (ih hdeeper).bind _
    rw [hlevels, expand_of_slots (List.ne_nil_of_mem houter)]
    exact .step (.deeper (List.mem_map_of_mem houter) htask)

/-- An expansion cuts off the text of every branch at its last level. -/
theorem starts_cutOff {depth : Nat} {template node : String} {branch : Branch}
    (hnode : node ∈ x.scopes.nodes depth template) (hbranch : branch ∈ x.scopes.branches node) :
    (x.expand (depth + 1) template.toList).Starts (x.cutOff branch) := by
  obtain ⟨slot, hslot, hsome⟩ := List.mem_filterMap.mp hbranch
  have hstarts := starts_resolveSlot (x := x) 0 hnode hslot
  rw [resolveSlot_zero hsome] at hstarts
  exact hstarts

end Expander

/-! ### Requests -/

namespace Service

variable {s : Service} {template : String} {scopes : Scopes} {encode : Option Bool} {n : Int}

/-- A request with a budget cuts off the texts one level below it. -/
theorem task_starts_cutOff (hn : 0 ≤ n) {node : String}
    (hnode : node ∈ scopes.nodes n.toNat template) {branch : Branch}
    (hbranch : branch ∈ scopes.branches node) :
    (s.task ⟨.str template, scopes, some n, encode⟩).Starts
      (Expander.cutOff ⟨s.registry, scopes, encode.getD s.encode, s.recordMetrics⟩ branch) := by
  let x : Expander := ⟨s.registry, scopes, encode.getD s.encode, s.recordMetrics⟩
  have hlevels : (n + 1).toNat = n.toNat + 1 := by omega
  have hstarts : (x.expand (n + 1).toNat template.toList).Starts (x.cutOff branch) := by
    rw [hlevels]
    exact Expander.starts_cutOff hnode hbranch
  exact hstarts.bind _

variable {piece : Piece}

/-- A request reports the nodes one level below its budget. -/
theorem reports_expandWithin (h : (s.runWithin template scopes encode n).result = .ok piece) :
    (logs (s.expandWithin template scopes encode n).observations).filter
        (·.event = "max_depth_reached") =
      (scopes.nodes (n + 1).toNat template).map depthEntry := by
  rw [logs_expandWithin]
  exact Expander.reports_expand h

/-- A request notes the nodes within its budget that have slots. -/
theorem notes_expandWithin (h : (s.runWithin template scopes encode n).result = .ok piece)
    (left : Int) :
    notesAt left (s.expandWithin template scopes encode n).observations =
      if 0 ≤ left ∧ left ≤ n then
        (withSlots (scopes.nodes (n - left).toNat template)).map (noteEntry left)
      else [] := by
  have hsame : notesAt left (s.expandWithin template scopes encode n).observations =
      notesAt left (s.runWithin template scopes encode n).observations := by
    unfold notesAt
    rw [logs_expandWithin]
  have hnotes : notesAt left (s.runWithin template scopes encode n).observations =
      if 0 ≤ left ∧ left < (n + 1).toNat then
        (withSlots (scopes.nodes ((n + 1).toNat - 1 - left).toNat template)).map (noteEntry left)
      else [] := Expander.notes_expand h left
  rw [hsame, hnotes]
  by_cases hleft : 0 ≤ left ∧ left ≤ n
  · have hdepth : (((n + 1).toNat : Int) - 1 - left).toNat = (n - left).toNat := by omega
    rw [if_pos hleft, if_pos (by omega), hdepth]
  · rw [if_neg hleft, if_neg (by omega)]

/-- The end of a request is counted once, by whether the budget has run out. -/
theorem tally_expansions_of_ranOut (hmetrics : s.recordMetrics = true)
    (h : (s.runWithin template scopes encode n).result = .ok piece) :
    let os := (s.expandWithin template scopes encode n).observations
    tally os (.expansions true) = (if RanOut os then 1 else 0) ∧
      tally os (.expansions false) = if RanOut os then 0 else 1 := by
  intro os
  have htally := tally_expansions_expandWithin hmetrics h
  have hran : RanOut os ↔ piece.exhausted = true :=
    (Expander.ranOut_iff_of_reports (reports_expandWithin h)).trans
      (Expander.exhausted_iff_nodes h).symm
  by_cases hout : RanOut os
  · rw [hran.mp hout] at htally
    rw [if_pos hout, if_pos hout]
    exact ⟨htally true, htally false⟩
  · rw [Bool.eq_false_iff.mpr (mt hran.mpr hout)] at htally
    rw [if_neg hout, if_neg hout]
    exact ⟨htally true, htally false⟩

/-- **An answer accounts for the expansion tree. The nodes one level below the budget are reported,
one by one and nothing else, and the filters of their placeholders get their texts as they stand;
the nodes within the budget that have slots are noted, one by one, with the levels that are left;
and the answer is counted once, by whether anything was reported.** -/
theorem expandWithin_accounts (s : Service) (template : String) {scopes : Scopes}
    (hw : scopes.WellFormed) (encode : Option Bool) (n : Int) :
    let request : Request := ⟨.str template, scopes, some n, encode⟩
    let os := (s.expandWithin template scopes encode n).observations
    (s.registry.ReturnsValues →
      ∃ text, (s.expandWithin template scopes encode n).result = .ok text) ∧
    (0 ≤ n → ∀ node ∈ scopes.nodes n.toNat template, ∀ branch ∈ scopes.branches node,
      (s.task request).Starts ((s.expander request).cutOff branch)) ∧
    ∀ text, (s.expandWithin template scopes encode n).result = .ok text →
      (logs os).filter (·.event = "max_depth_reached") =
        (scopes.nodes (n + 1).toNat template).map depthEntry ∧
      (∀ left, notesAt left os =
        if 0 ≤ left ∧ left ≤ n then
          (withSlots (scopes.nodes (n - left).toNat template)).map (noteEntry left)
        else []) ∧
      (s.recordMetrics = true →
        tally os (.expansions true) = (if RanOut os then 1 else 0) ∧
        tally os (.expansions false) = if RanOut os then 0 else 1) := by
  intro request os
  refine ⟨?_, ?_, ?_⟩
  · intro hr
    exact s.expand_succeeds hr request hw rfl
  · intro hn node hnode branch hbranch
    exact task_starts_cutOff hn hnode hbranch
  · intro text hok
    obtain ⟨piece, hpiece⟩ := exists_piece_of_expandWithin hok
    refine ⟨reports_expandWithin hpiece, notes_expandWithin hpiece, ?_⟩
    intro hmetrics
    exact tally_expansions_of_ranOut hmetrics hpiece

/-- With no level below the template, the text of a variable and the empty text of an absent one are
both reported, and the answer is counted once. -/
theorem expandWithin_accounts_nested :
    let os := (metered.expandWithin "${site}${nothing}" nestedScopes none 0).observations
    (logs os).filter (·.event = "max_depth_reached") = [depthEntry "/${path}", depthEntry ""] ∧
    notesAt 0 os = [noteEntry 0 "${site}${nothing}"] ∧
    tally os (.expansions true) = 1 := by
  intro os
  have hw : nestedScopes.WellFormed := by decide
  have htop : withSlots (nestedScopes.nodes 0 "${site}${nothing}") = ["${site}${nothing}"] := by
    decide +kernel
  have hbelow : nestedScopes.nodes 1 "${site}${nothing}" = ["/${path}", ""] := by
    decide +kernel
  obtain ⟨hanswers, -, haccounts⟩ :=
    metered.expandWithin_accounts "${site}${nothing}" hw none 0
  obtain ⟨text, htext⟩ := hanswers (Registry.returnsValues_new _)
  obtain ⟨hreports, hnotes, hcounted⟩ := haccounts text htext
  have hreported : (logs os).filter (·.event = "max_depth_reached") =
      (nestedScopes.nodes 1 "${site}${nothing}").map depthEntry := hreports
  have hnoted : notesAt 0 os =
      (withSlots (nestedScopes.nodes 0 "${site}${nothing}")).map (noteEntry 0) := hnotes 0
  rw [hbelow] at hreported
  rw [htop] at hnoted
  have hran : RanOut os := (Expander.ranOut_iff_of_reports hreported).mpr (by simp)
  refine ⟨hreported, hnoted, ?_⟩
  exact (hcounted rfl).1.trans (if_pos hran)

end Service

end UrlTemplate
