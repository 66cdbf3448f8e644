import UrlTemplate.Proofs.Expansion.Run
import UrlTemplate.Proofs.Filter.Presence
import UrlTemplate.Proofs.Scope

/-!
# What an expansion writes

`Task.writes` is the list of the values that a task writes, from left to right. A checked task fails
with the first fault among them, and does the same as the task itself if there is none
(`Task.run_checked_of_none`, `Task.result_checked_of_some`), so the answer to a request is the
expansion of its template unless a value that it writes cannot be written
(`Service.result_answer`, `Service.answer_of_writable`).

An expansion writes the values with which the chains of its placeholders end. A property of the
variables that texts have and handlers keep is therefore a property of all that is written
(`Expander.of_mem_writes_expand`), by induction on the levels.
-/

namespace UrlTemplate

open Template

/-- The value can be written inside a text. -/
def Value.Writable (v : Value) : Prop :=
  v.fault? .text = none

/-- Every text can be written. -/
theorem Value.writable_str (s : String) : (Value.str s).Writable :=
  Value.fault?_str .text s

/-- The value that a step writes. -/
def Step.written? : Step → Option Value
  | .write v => some v
  | _ => none

/-- What a step cannot do is to write its value. -/
theorem Step.fault?_eq (s : Step) : s.fault? = s.written?.bind (·.fault? .text) := by
  cases s <;> rfl

/-- The first fault that writing some values in a row comes upon. -/
def firstFault? (vs : List Value) : Option WriteFault :=
  vs.findSome? (·.fault? .text)

/-- The first fault of two rows is that of the first row, or else that of the second one. -/
theorem firstFault?_append (vs ws : List Value) :
    firstFault? (vs ++ ws) = (firstFault? vs).or (firstFault? ws) :=
  List.findSome?_append

/-- Nothing is wrong with a row of values that can be written. -/
theorem firstFault?_eq_none_iff {vs : List Value} :
    firstFault? vs = none ↔ ∀ v ∈ vs, v.Writable :=
  List.findSome?_eq_none_iff

namespace Task

mutual

/-- The values that a task writes when it is carried out from left to right. -/
def writes : Task → List Value
  | .done _ => []
  | .fail _ => []
  | .step s next => s.written?.toList ++ next.writes
  | .fork children join =>
    let continued := fun pieces => (join pieces).writes
    writesAll children ++ match (runAll children).result with
      | .error _ => []
      | .ok pieces => continued pieces

/-- The values that tasks write one after the other, up to the first that fails. -/
def writesAll : List Task → List Value
  | [] => []
  | task :: rest =>
    task.writes ++ match task.run.result with
      | .error _ => []
      | .ok _ => writesAll rest

end

/-- Behind subtasks that succeed the fork goes on. -/
theorem writes_fork_of_ok {children : List Task} {join : List Piece → Task} {pieces : List Piece}
    (h : (runAll children).result = .ok pieces) :
    (Task.fork children join).writes = writesAll children ++ (join pieces).writes := by
  rw [writes, h]

/-- Behind a subtask that fails nothing is written. -/
theorem writes_fork_of_error {children : List Task} {join : List Piece → Task} {e : ExpansionError}
    (h : (runAll children).result = .error e) :
    (Task.fork children join).writes = writesAll children := by
  rw [writes, h]
  exact List.append_nil _

/-- Behind a task that succeeds the others write. -/
theorem writesAll_cons_of_ok {t : Task} {ts : List Task} {piece : Piece}
    (h : t.run.result = .ok piece) : writesAll (t :: ts) = t.writes ++ writesAll ts := by
  rw [writesAll, h]

/-- Behind a task that fails nothing is written. -/
theorem writesAll_cons_of_error {t : Task} {ts : List Task} {e : ExpansionError}
    (h : t.run.result = .error e) : writesAll (t :: ts) = t.writes := by
  rw [writesAll, h]
  exact List.append_nil _

/-! ### Checked tasks -/

/-- A checked task takes a step that it can take. -/
theorem checked_step_of_none {s : Step} (h : s.fault? = none) (next : Task) :
    (Task.step s next).checked = .step s next.checked := by
  simp only [checked, h]

/-- A checked task fails at a step that it cannot take. -/
theorem checked_step_of_some {s : Step} {fault : WriteFault} (h : s.fault? = some fault)
    (next : Task) : (Task.step s next).checked = .fail (.noText (.unwritable fault)) := by
  simp only [checked, h]

/-- The first fault of a step and what follows. -/
theorem firstFault?_writes_step (s : Step) (next : Task) :
    firstFault? (Task.step s next).writes = s.fault?.or (firstFault? next.writes) := by
  rw [writes, firstFault?_append, Step.fault?_eq]
  cases s.written? with
  | none => rfl
  | some v => cases hv : v.fault? .text <;> simp [firstFault?, hv]

mutual

/-- **Where everything can be written a checked task does the same as the task itself.** -/
theorem run_checked_of_none : (t : Task) → firstFault? t.writes = none → t.checked.run = t.run
  | .done _, _ => by rw [checked]
  | .fail _, _ => by rw [checked]
  | .step s next, h => by
    rw [firstFault?_writes_step, Option.or_eq_none_iff] at h
    rw [checked_step_of_none h.1, run_step, run_step, run_checked_of_none next h.2]
  | .fork children join, h => by
    rw [checked, run_fork, run_fork]
    cases hall : (runAll children).result with
    | error e =>
      rw [writes_fork_of_error hall] at h
      rw [runAll_checkedAll_of_none children h, Outcome.andThen_of_error hall,
        Outcome.andThen_of_error hall]
    | ok pieces =>
      rw [writes_fork_of_ok hall, firstFault?_append, Option.or_eq_none_iff] at h
      rw [runAll_checkedAll_of_none children h.1, Outcome.andThen_of_ok hall,
        Outcome.andThen_of_ok hall, run_checked_of_none (join pieces) h.2]

/-- Where everything can be written checked tasks do the same as the tasks themselves. -/
theorem runAll_checkedAll_of_none : (ts : List Task) → firstFault? (writesAll ts) = none →
    runAll (checkedAll ts) = runAll ts
  | [], _ => by rw [checkedAll]
  | t :: ts, h => by
    rw [checkedAll, runAll_cons, runAll_cons]
    cases hres : t.run.result with
    | error e =>
      rw [writesAll_cons_of_error hres] at h
      rw [run_checked_of_none t h, Outcome.andThen_of_error hres, Outcome.andThen_of_error hres]
    | ok piece =>
      rw [writesAll_cons_of_ok hres, firstFault?_append, Option.or_eq_none_iff] at h
      rw [run_checked_of_none t h.1, runAll_checkedAll_of_none ts h.2]

end

mutual

/-- **A checked task fails with the first fault of what it writes.** -/
theorem result_checked_of_some : (t : Task) → {fault : WriteFault} →
    firstFault? t.writes = some fault →
      t.checked.run.result = .error (.noText (.unwritable fault))
  | .done _, _, h => by simp [writes, firstFault?] at h
  | .fail _, _, h => by simp [writes, firstFault?] at h
  | .step s next, fault, h => by
    rw [firstFault?_writes_step, Option.or_eq_some_iff] at h
    rcases h with h | ⟨hnone, hnext⟩
    · rw [checked_step_of_some h, run]
    · rw [checked_step_of_none hnone, run_step]
      exact result_checked_of_some next hnext
  | .fork children join, fault, h => by
    have hchildren (h : firstFault? (writesAll children) = some fault) :
        (Task.fork children join).checked.run.result = .error (.noText (.unwritable fault)) := by
      rw [checked, run_fork, Outcome.andThen_of_error (result_runAll_checkedAll_of_some children h)]
    cases hall : (runAll children).result with
    | error e =>
      rw [writes_fork_of_error hall] at h
      exact hchildren h
    | ok pieces =>
      rw [writes_fork_of_ok hall, firstFault?_append, Option.or_eq_some_iff] at h
      rcases h with h | ⟨hnone, hjoin⟩
      · exact hchildren h
      · rw [checked, run_fork, runAll_checkedAll_of_none children hnone, Outcome.andThen_of_ok hall]
        exact result_checked_of_some (join pieces) hjoin

/-- Checked tasks fail with the first fault of what they write. -/
theorem result_runAll_checkedAll_of_some : (ts : List Task) → {fault : WriteFault} →
    firstFault? (writesAll ts) = some fault →
      (runAll (checkedAll ts)).result = .error (.noText (.unwritable fault))
  | [], _, h => by simp [writesAll, firstFault?] at h
  | t :: ts, fault, h => by
    have hfirst (h : firstFault? t.writes = some fault) :
        (runAll (checkedAll (t :: ts))).result = .error (.noText (.unwritable fault)) := by
      rw [checkedAll, runAll_cons, Outcome.andThen_of_error (result_checked_of_some t h)]
    cases hres : t.run.result with
    | error e =>
      rw [writesAll_cons_of_error hres] at h
      exact hfirst h
    | ok piece =>
      rw [writesAll_cons_of_ok hres, firstFault?_append, Option.or_eq_some_iff] at h
      rcases h with h | ⟨hnone, hrest⟩
      · exact hfirst h
      · rw [checkedAll, result_runAll_cons, run_checked_of_none t hnone, hres,
          result_runAll_checkedAll_of_some ts hrest]

end

/-! ### Where the values come from -/

/-- Steps that come first write what they write first. -/
theorem writes_after (steps : List Step) (next : Task) :
    (after steps next).writes = steps.filterMap Step.written? ++ next.writes := by
  induction steps with
  | nil => rfl
  | cons s steps ih =>
    have h : after (s :: steps) next = .step s (after steps next) := rfl
    rw [h, writes, ih, List.filterMap_cons]
    cases s.written? <;> rfl

/-- What goes on behind a task that succeeds writes behind it. -/
theorem writes_bind_of_ok : (t : Task) → {k : Piece → Task} → {piece : Piece} →
    t.run.result = .ok piece → (t.bind k).writes = t.writes ++ (k piece).writes
  | .done inner, k, piece, h => by
    rw [run, Except.ok.injEq] at h
    rw [bind, writes, h, List.nil_append]
  | .fail e, k, piece, h => by
    rw [run] at h
    cases h
  | .step s next, k, piece, h => by
    rw [run_step] at h
    rw [bind, writes, writes, writes_bind_of_ok next h, List.append_assoc]
  | .fork children join, k, piece, h => by
    rw [run_fork] at h
    rw [bind]
    cases hall : (runAll children).result with
    | error e =>
      rw [Outcome.andThen_of_error hall] at h
      cases h
    | ok pieces =>
      rw [Outcome.andThen_of_ok hall] at h
      rw [writes_fork_of_ok hall, writes_fork_of_ok hall, writes_bind_of_ok (join pieces) h,
        List.append_assoc]

/-- Behind a task that fails nothing is written. -/
theorem writes_bind_of_error : (t : Task) → {k : Piece → Task} → {e : ExpansionError} →
    t.run.result = .error e → (t.bind k).writes = t.writes
  | .done inner, k, e, h => by
    rw [run] at h
    cases h
  | .fail _, k, e, _ => by rw [bind]
  | .step s next, k, e, h => by
    rw [run_step] at h
    rw [bind, writes, writes, writes_bind_of_error next h]
  | .fork children join, k, e, h => by
    rw [run_fork] at h
    rw [bind]
    cases hall : (runAll children).result with
    | error e' => rw [writes_fork_of_error hall, writes_fork_of_error hall]
    | ok pieces =>
      rw [Outcome.andThen_of_ok hall] at h
      rw [writes_fork_of_ok hall, writes_fork_of_ok hall, writes_bind_of_error (join pieces) h]

/-- What a task writes that goes on behind another is written by the one or by the other. -/
theorem mem_writes_bind {t : Task} {k : Piece → Task} {v : Value} (h : v ∈ (t.bind k).writes) :
    v ∈ t.writes ∨ ∃ piece, t.run.result = .ok piece ∧ v ∈ (k piece).writes := by
  cases hres : t.run.result with
  | error e =>
    rw [writes_bind_of_error t hres] at h
    exact .inl h
  | ok piece =>
    rw [writes_bind_of_ok t hres, List.mem_append] at h
    exact h.imp_right fun h => ⟨piece, rfl, h⟩

/-- A fault of a task is the fault of what goes on behind it. -/
theorem firstFault?_writes_bind {t : Task} {fault : WriteFault}
    (h : firstFault? t.writes = some fault) (k : Piece → Task) :
    firstFault? (t.bind k).writes = some fault := by
  cases hres : t.run.result with
  | error e => rw [writes_bind_of_error t hres, h]
  | ok piece => rw [writes_bind_of_ok t hres, firstFault?_append, h, Option.some_or]

/-- Tasks that come to the same and write the same write the same in a row. -/
theorem writesAll_congr {α : Type} {f g : α → Task} {as : List α}
    (h : ∀ a ∈ as, (f a).run.result = (g a).run.result ∧ (f a).writes = (g a).writes) :
    writesAll (as.map f) = writesAll (as.map g) := by
  induction as with
  | nil => rfl
  | cons a as ih =>
    obtain ⟨hresult, hwrites⟩ := h a List.mem_cons_self
    rw [List.map_cons, List.map_cons, writesAll, writesAll, hresult, hwrites,
      ih fun b hb => h b (List.mem_cons_of_mem _ hb)]

/-- One task by itself writes what it writes. -/
theorem writesAll_singleton (t : Task) : writesAll [t] = t.writes := by
  cases hres : t.run.result with
  | error e => exact writesAll_cons_of_error hres
  | ok piece => rw [writesAll_cons_of_ok hres, writesAll, List.append_nil]

/-- What tasks write one of them writes. -/
theorem mem_writesAll : {ts : List Task} → {v : Value} → v ∈ writesAll ts → ∃ t ∈ ts, v ∈ t.writes
  | t :: ts, v, h => by
    cases hres : t.run.result with
    | error e =>
      rw [writesAll_cons_of_error hres] at h
      exact ⟨t, List.mem_cons_self, h⟩
    | ok piece =>
      rw [writesAll_cons_of_ok hres, List.mem_append] at h
      rcases h with h | h
      · exact ⟨t, List.mem_cons_self, h⟩
      · obtain ⟨u, hu, hv⟩ := mem_writesAll h
        exact ⟨u, List.mem_cons_of_mem _ hu, hv⟩

end Task

namespace Registry

variable (r : Registry)

/-- Steps that show something or give way write nothing. -/
theorem filterMap_written_observe (os : List Observation) :
    (os.map Step.observe).filterMap Step.written? = [] := by
  rw [List.filterMap_map, List.filterMap_eq_nil_iff]
  exact fun _ _ => rfl

/-- A handler writes nothing. -/
theorem filterMap_written_run (handler : Handler) (context : FilterContext) (item : Item)
    (args : List String) : (handler.run context item args).steps.filterMap Step.written? = [] := by
  have hpauses (n : Nat) : (List.replicate n Step.pause).filterMap Step.written? = [] := by
    rw [List.filterMap_eq_nil_iff]
    intro s hs
    rw [List.eq_of_mem_replicate hs]
    rfl
  cases handler with
  | sync apply => exact hpauses _
  | async apply => exact hpauses _
  | hash => exact filterMap_written_observe _

/-- A segment writes nothing. -/
theorem filterMap_written_applySegment (item : Item) (segment : String) :
    (r.applySegment item segment).1.filterMap Step.written? = [] := by
  have hreport (event : String) (details : Fields) :
      (r.report event details).filterMap Step.written? = [] := filterMap_written_observe _
  have hcount (name : String) (ok : Bool) :
      (r.countApplication name ok).filterMap Step.written? = [] := by
    unfold countApplication
    cases r.context.recordMetrics <;> rfl
  rcases hparse : FilterCall.parse segment with e | call
  · rw [applySegment_of_malformed hparse]
    exact hreport _ _
  · rcases hget : r.get? call.name with _ | handler
    · rw [applySegment_of_unknown hparse hget]
      exact hreport _ _
    · rw [applySegment_of_handler hparse hget]
      rcases hrun : (handler.run r.context item call.args).outcome with e | next
      · rw [applyHandler_of_error hrun]
        simp only [List.filterMap_append, filterMap_written_run, hcount, hreport, List.append_nil]
      · rw [applyHandler_of_ok hrun]
        simp only [List.filterMap_append, filterMap_written_run, hcount, List.append_nil]

/-- A chain writes nothing. -/
theorem filterMap_written_applyFilters (item : Item) (segments : List String) :
    (r.applyFilters item segments).1.filterMap Step.written? = [] := by
  induction segments generalizing item with
  | nil => rfl
  | cons segment rest ih =>
    rw [applyFilters_cons, List.filterMap_append, filterMap_written_applySegment, ih]
    rfl

end Registry

namespace Expander

variable {x : Expander} {P : Value → Prop} {v : Value}

/-- The end of a placeholder writes the value with which its chain ends, if that has a text. -/
theorem writes_filtered (p : Placeholder) (u : Value) (exhausted : Bool) :
    (x.filtered p u exhausted).writes =
      (x.registry.applyFilters (.ready u) p.segments).2.readable.toOption.toList := by
  unfold filtered
  rw [Task.writes_after, Registry.filterMap_written_applyFilters, List.nil_append]
  cases (x.registry.applyFilters (.ready u) p.segments).2.readable with
  | error e => rfl
  | ok w =>
    simp only [Task.writes_after]
    cases x.recordMetrics <;> rfl

/-- What the end of a placeholder writes has what handlers keep. -/
theorem of_mem_writes_filtered (hr : x.registry.ReturnsValues) (hkeeps : x.registry.Keeps P)
    {p : Placeholder} {u : Value} {exhausted : Bool} (hu : P u)
    (h : v ∈ (x.filtered p u exhausted).writes) : P v := by
  obtain ⟨w, hw, hP⟩ := hkeeps.applyFilters hr hu p.segments
  rw [writes_filtered, hw] at h
  obtain rfl := List.mem_singleton.mp h
  exact hP

/-- What a slot writes has what texts and variables have and handlers keep, if what is nested in it
does. -/
theorem of_mem_writes_resolveSlot (htext : ∀ s, P (.str s)) (hr : x.registry.ReturnsValues)
    (hkeeps : x.registry.Keeps P) (hvars : ∀ name w, x.scopes.resolve name = .ok w → P w)
    {nested : List Char → Task} (hnested : ∀ text, ∀ w ∈ (nested text).writes, P w)
    {body : List Char} (h : v ∈ (x.resolveSlot nested body).writes) : P v := by
  rcases reading x.scopes body with
    ⟨hread⟩ | ⟨hread, hres⟩ | @⟨p, text, hread, hres⟩ | ⟨hread, hres, hv⟩
  · rw [resolveSlot_of_malformed hread, Task.writes_after, Registry.report,
      Registry.filterMap_written_observe] at h
    cases h
  · rw [resolveSlot_of_fault hread hres] at h
    cases h
  · rw [resolveSlot_of_text hread hres] at h
    rcases Task.mem_writes_bind h with h | ⟨piece, -, h⟩
    · exact hnested _ v h
    · exact of_mem_writes_filtered hr hkeeps (htext _) h
  · rw [resolveSlot_of_value hread hres hv] at h
    exact of_mem_writes_filtered hr hkeeps (hvars _ _ hres) h

/-- With levels left a template writes what its slots write. -/
theorem writes_expand_succ (x : Expander) (fuel : Nat) (template : List Char) :
    (x.expand (fuel + 1) template).writes = Task.writesAll (x.slotTasks fuel template) := by
  rw [expand]
  by_cases hslots : (scan template).slots = []
  · simp only [hslots, if_true]
    unfold slotTasks
    rw [hslots, List.map_nil, Task.writes, Task.writesAll]
  · simp only [hslots, if_false]
    show (Task.fork (x.slotTasks fuel template) fun pieces =>
      .done (splice (scan template) pieces)).writes = _
    cases hres : (Task.runAll (x.slotTasks fuel template)).result with
    | error e => rw [Task.writes_fork_of_error hres]
    | ok pieces => rw [Task.writes_fork_of_ok hres, Task.writes, List.append_nil]

/-- **What an expansion writes has what texts and variables have and handlers keep.** -/
theorem of_mem_writes_expand (htext : ∀ s, P (.str s)) (hr : x.registry.ReturnsValues)
    (hkeeps : x.registry.Keeps P) (hvars : ∀ name w, x.scopes.resolve name = .ok w → P w)
    {fuel : Nat} {template : List Char} (h : v ∈ (x.expand fuel template).writes) : P v := by
  induction fuel generalizing template v with
  | zero =>
    rw [expand, Task.writes_after, Registry.report, Registry.filterMap_written_observe] at h
    cases h
  | succ fuel ih =>
    rw [writes_expand_succ] at h
    obtain ⟨t, ht, hv⟩ := Task.mem_writesAll h
    obtain ⟨slot, -, rfl⟩ := List.mem_map.mp ht
    exact of_mem_writes_resolveSlot htext hr hkeeps hvars (fun text w hw => ih hw) hv

end Expander

/-! ### Requests -/

/-- Every variable, in every scope, can be written. -/
def Scopes.Writable (scopes : Scopes) : Prop :=
  ∀ scope ∈ scopes.inOrder, ∀ name v, lookup scope name = .ok v → v.Writable

/-- Variables of the event can be written if all of them can be. -/
theorem Scopes.writable_ofEvent {vars : Fields} (h : ∀ name v, (name, v) ∈ vars → v.Writable) :
    (ofEvent vars).Writable := by
  intro scope hscope name v hv
  rcases List.mem_cons.mp hscope with rfl | hscope
  · rw [lookup_ofEvent, Except.ok.injEq] at hv
    rw [← hv]
    cases hlookup : vars.lookup name with
    | none => rfl
    | some w => exact h name w (Entries.mem_of_lookup hlookup)
  · simp only [ofEvent, List.mem_cons, List.not_mem_nil, or_false, or_self] at hscope
    rw [hscope] at hv
    rw [← Except.ok.inj hv]
    rfl

/-- What a variable stands for can be written. -/
theorem Scopes.Writable.resolve {scopes : Scopes} (h : scopes.Writable) {name : String} {v : Value}
    (hres : scopes.resolve name = .ok v) : v.Writable := by
  rcases resolve_eq_ok hres with rfl | ⟨scope, hmem, hlookup⟩
  · exact Value.writable_str ""
  · exact h scope hmem name v hlookup

namespace Service

/-- The first fault among the values that a request writes. -/
def fault? (s : Service) (request : Request) : Option WriteFault :=
  firstFault? (s.task request).writes

variable {s : Service} {request : Request}

/-- A request writes what the expansion of its template writes. -/
theorem writes_task {template : String} (h : request.template = .str template) :
    (s.task request).writes =
      ((s.expander request).expand (s.levels request) template.toList).writes := by
  have hcounts (piece : Piece) : (Task.after (s.finalCounts piece) (.done piece)).writes = [] := by
    rw [Task.writes_after, finalCounts]
    cases s.recordMetrics <;> rfl
  unfold task
  simp only [h]
  cases hres : ((s.expander request).expand (s.levels request) template.toList).run.result with
  | error e => exact Task.writes_bind_of_error _ hres
  | ok piece => exact (Task.writes_bind_of_ok _ hres).trans (by rw [hcounts, List.append_nil])

/-- **The answer to a request is the expansion, up to the first value that cannot be written.** -/
theorem result_answer (s : Service) (request : Request) :
    (s.answer request).result = (s.fault? request).elim (s.expand request).result
      fun fault => .error (.noText (.unwritable fault)) := by
  unfold answer expand reply fault?
  cases h : firstFault? (s.task request).writes with
  | none => rw [Task.run_checked_of_none _ h, Option.elim_none]
  | some fault => rw [Task.result_checked_of_some _ h, Option.elim_some, Except.map]

/-- Where all that is written can be written, the answer is the expansion, and shows the same. -/
theorem answer_of_writable (h : s.fault? request = none) : s.answer request = s.expand request := by
  unfold answer expand
  rw [Task.run_checked_of_none _ h]

/-- An answer is the expansion, and shows the same. -/
theorem answer_of_ok {text : String} (h : (s.answer request).result = .ok text) :
    s.answer request = s.expand request := by
  cases hfault : s.fault? request with
  | none => exact answer_of_writable hfault
  | some fault =>
    rw [result_answer, hfault] at h
    cases h

/-- A request writes nothing that cannot be written if its variables can be and the handlers make
such values of such values. -/
theorem fault?_eq_none (hr : s.registry.ReturnsValues) (hkeeps : s.registry.Keeps Value.Writable)
    (hscopes : request.scopes.Writable) : s.fault? request = none := by
  refine firstFault?_eq_none_iff.mpr ?_
  intro v hv
  rcases text_or_fails request with ⟨template, htemplate⟩ | hfail
  · rw [writes_task htemplate] at hv
    exact Expander.of_mem_writes_expand Value.writable_str hr hkeeps
      (fun name w hres => hscopes.resolve hres) hv
  · rw [hfail] at hv
    cases hv

end Service

end UrlTemplate
