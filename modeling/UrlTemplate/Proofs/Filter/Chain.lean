import UrlTemplate.Filter.Chain

/-!
# What filter chains make of values

One lemma for each way in which a segment can end (`applySegment_of_malformed`,
`applySegment_of_unknown`, `applyHandler_of_ok`, `applyHandler_of_error`), so that nothing else has
to look into a chain. What a chain does depends on the handlers of the filters that its segments
call, and on no others (`applyFilters_congr`).

Handlers that answer a value with a value, or fail, keep every chain that starts from a value with
values (`Registry.ReturnsValues.applyFilters`): an item that is not ready comes from a handler only.
The built-in filters are such handlers (`returnsValues_new`), registering such a handler keeps a
registry so (`ReturnsValues.register`).
-/

namespace UrlTemplate

/-- Answers a value with a value, or fails. -/
def Handler.ReturnsValues : Handler → Prop
  | .sync apply => ∀ v args item, apply (.ready v) args = .ok item → ∃ w, item = .ready w
  | .async apply => ∀ v args item, (apply (.ready v) args).outcome = .ok item → ∃ w, item = .ready w
  | .hash => True

/-- A segment calls the filter of a name. -/
def Calls (filter segment : String) : Prop :=
  ∃ call, Template.FilterCall.parse segment = .ok call ∧ call.name = filter

instance decidableCalls (filter segment : String) : Decidable (Calls filter segment) :=
  match h : Template.FilterCall.parse segment with
  | .ok call => decidable_of_iff (call.name = filter) <| by simp [Calls, h]
  | .error _ => isFalse <| by simp [Calls, h]

namespace Registry

open Template

/-! ### How a segment ends -/

/-- A segment that does not parse is reported and skipped. -/
theorem applySegment_of_malformed {segment : String} {e : PlaceholderError}
    (h : FilterCall.parse segment = .error e) (r : Registry) (item : Item) :
    r.applySegment item segment =
      (r.report "invalid_filter" [("segment", .str segment), ("error", .str e.message)], item) := by
  simp only [applySegment, h]

/-- A segment that names no filter is reported and skipped. -/
theorem applySegment_of_unknown {r : Registry} {segment : String} {call : FilterCall}
    (h : FilterCall.parse segment = .ok call) (hget : r.get? call.name = none) (item : Item) :
    r.applySegment item segment =
      (r.report "invalid_filter_name" [("filter", .str call.name)], item) := by
  simp only [applySegment, h, hget]

/-- A segment that names a filter applies its handler. -/
theorem applySegment_of_handler {r : Registry} {segment : String} {call : FilterCall}
    {handler : Handler} (h : FilterCall.parse segment = .ok call)
    (hget : r.get? call.name = some handler) (item : Item) :
    r.applySegment item segment = r.applyHandler call handler item := by
  simp only [applySegment, h, hget]

/-- A handler that succeeds is counted, and what it answers goes on. -/
theorem applyHandler_of_ok {r : Registry} {call : FilterCall} {handler : Handler} {item next : Item}
    (h : (handler.run r.context item call.args).outcome = .ok next) :
    r.applyHandler call handler item =
      ((handler.run r.context item call.args).steps ++ r.countApplication call.name true,
        next) := by
  simp only [applyHandler, h]

/-- A handler that fails is counted and reported, and what it leaves of its item goes on. -/
theorem applyHandler_of_error {r : Registry} {call : FilterCall} {handler : Handler} {item : Item}
    {e : FilterError} (h : (handler.run r.context item call.args).outcome = .error e) :
    r.applyHandler call handler item =
      ((handler.run r.context item call.args).steps ++ r.countApplication call.name false ++
          r.report "filter_failed" [("filter", .str call.name), ("error", .str e.message)],
        (handler.run r.context item call.args).left) := by
  simp only [applyHandler, h]

/-- An empty chain does nothing. -/
@[simp] theorem applyFilters_nil (r : Registry) (item : Item) :
    r.applyFilters item [] = ([], item) := by
  rw [applyFilters]

/-- A chain goes through its first segment and then through the others. -/
theorem applyFilters_cons (r : Registry) (item : Item) (segment : String) (rest : List String) :
    r.applyFilters item (segment :: rest) =
      ((r.applySegment item segment).1 ++
          (r.applyFilters (r.applySegment item segment).2 rest).1,
        (r.applyFilters (r.applySegment item segment).2 rest).2) := by
  rw [applyFilters]

/-- Registries that differ in their filters at most report in the same way. -/
theorem report_congr {r r' : Registry} (hcontext : r'.context = r.context) (event : String)
    (details : Fields) : r'.report event details = r.report event details := by
  unfold report
  rw [hcontext]

/-- Registries that differ in their filters at most do the same for a segment if they have the same
handler, or none, for the filter that it calls. -/
theorem applySegment_congr {r r' : Registry} (hcontext : r'.context = r.context) {segment : String}
    (hget : ∀ filter, Calls filter segment → r'.get? filter = r.get? filter) (item : Item) :
    r'.applySegment item segment = r.applySegment item segment := by
  rcases hparse : FilterCall.parse segment with e | call
  · rw [applySegment_of_malformed hparse, applySegment_of_malformed hparse, report_congr hcontext]
  · have hsame := hget call.name ⟨call, hparse, rfl⟩
    rcases hhandler : r.get? call.name with _ | handler
    · rw [applySegment_of_unknown hparse hhandler,
        applySegment_of_unknown hparse (hsame.trans hhandler), report_congr hcontext]
    · rw [applySegment_of_handler hparse hhandler,
        applySegment_of_handler hparse (hsame.trans hhandler)]
      unfold applyHandler countApplication
      simp only [report_congr hcontext, hcontext]

/-- Registries that differ in their filters at most do the same for a chain if they have the same
handler, or none, for every filter that it calls. -/
theorem applyFilters_congr {r r' : Registry} (hcontext : r'.context = r.context)
    {segments : List String} (hget : ∀ segment ∈ segments, ∀ filter, Calls filter segment →
      r'.get? filter = r.get? filter) (item : Item) :
    r'.applyFilters item segments = r.applyFilters item segments := by
  induction segments generalizing item with
  | nil => rfl
  | cons segment rest ih =>
    have hrest := ih fun other hother => hget other (List.mem_cons_of_mem _ hother)
    rw [applyFilters_cons, applyFilters_cons,
      applySegment_congr hcontext (hget segment List.mem_cons_self), hrest]

/-! ### From value to value -/

/-- All handlers answer values with values, or fail. -/
def ReturnsValues (r : Registry) : Prop :=
  ∀ entry ∈ r.filters, entry.2.ReturnsValues

/-- The handler of a name is among the registered ones. -/
theorem ReturnsValues.get? {r : Registry} (hr : r.ReturnsValues) {name : String} {handler : Handler}
    (h : r.get? name = some handler) : handler.ReturnsValues := by
  unfold Registry.get? at h
  obtain ⟨before, after, hfilters, -⟩ := List.lookup_eq_some_iff.mp h
  exact hr (name, handler) (by rw [hfilters]; simp)

/-- A value that a handler has received is still there if the handler fails. -/
theorem left_run_ready (handler : Handler) (context : FilterContext) (v : Value)
    (args : List String) : (handler.run context (.ready v) args).left = .ready v := by
  cases handler <;> rfl

/-- Such a handler makes a value of a value, also where it fails. -/
theorem applyHandler_ready {handler : Handler} (hh : handler.ReturnsValues) (r : Registry)
    (call : FilterCall) (v : Value) :
    ∃ w, (r.applyHandler call handler (.ready v)).2 = .ready w := by
  cases houtcome : (handler.run r.context (.ready v) call.args).outcome with
  | error e =>
    rw [applyHandler_of_error houtcome]
    exact ⟨v, left_run_ready handler r.context v call.args⟩
  | ok item =>
    rw [applyHandler_of_ok houtcome]
    cases handler with
    | sync apply => exact hh v call.args item houtcome
    | async apply => exact hh v call.args item houtcome
    | hash => exact ⟨_, (Except.ok.inj houtcome).symm⟩

/-- A segment makes a value of a value. -/
theorem ReturnsValues.applySegment {r : Registry} (hr : r.ReturnsValues) (v : Value)
    (segment : String) : ∃ w, (r.applySegment (.ready v) segment).2 = .ready w := by
  cases hparse : FilterCall.parse segment with
  | error e =>
    rw [applySegment_of_malformed hparse]
    exact ⟨v, rfl⟩
  | ok call =>
    cases hget : r.get? call.name with
    | none =>
      rw [applySegment_of_unknown hparse hget]
      exact ⟨v, rfl⟩
    | some handler =>
      rw [applySegment_of_handler hparse hget]
      exact applyHandler_ready (hr.get? hget) r call v

/-- A chain makes a value of a value. -/
theorem ReturnsValues.applyFilters {r : Registry} (hr : r.ReturnsValues) (v : Value)
    (segments : List String) : ∃ w, (r.applyFilters (.ready v) segments).2 = .ready w := by
  induction segments generalizing v with
  | nil =>
    rw [applyFilters_nil]
    exact ⟨v, rfl⟩
  | cons segment rest ih =>
    obtain ⟨w, hw⟩ := hr.applySegment v segment
    rw [applyFilters_cons, hw]
    exact ih w

/-! ### Which registries are such -/

/-- On a value a built-in filter is the function of values. -/
theorem applyItem_ready (filter : Builtin) (v : Value) (args : List String) :
    filter.applyItem (.ready v) args = (filter.apply v (args.map .str)).map .ready := by
  cases filter <;> rfl

/-- A built-in filter makes a value of a value, or fails. -/
theorem returnsValues_builtinHandler (filter : Builtin) :
    (builtinHandler filter).ReturnsValues := by
  have happly : ∀ v args item,
      filter.applyItem (.ready v) args = .ok item → ∃ w, item = .ready w := by
    intro v args item h
    rw [applyItem_ready] at h
    cases hv : filter.apply v (args.map .str) with
    | error e =>
      rw [hv] at h
      cases h
    | ok w =>
      rw [hv] at h
      exact ⟨w, (Except.ok.inj h).symm⟩
  cases filter <;> exact happly

/-- The built-in filters make values of values, or fail. -/
theorem returnsValues_new (context : FilterContext) : (Registry.new context).ReturnsValues := by
  intro entry hmem
  simp only [Registry.new, builtins, List.mem_append, List.mem_map, List.mem_cons,
    List.not_mem_nil, or_false] at hmem
  rcases hmem with ⟨filter, -, rfl⟩ | rfl | rfl
  · exact returnsValues_builtinHandler filter
  · trivial
  · exact returnsValues_builtinHandler .if

/-- A registration of a handler that makes values of values keeps the registry so. -/
theorem ReturnsValues.register {r r' : Registry} (hr : r.ReturnsValues) {name : String}
    {sync : Bool} {handler : Option (Handler.OfKind sync)} {os : List Observation}
    (hh : ∀ h, handler = some h → h.val.ReturnsValues)
    (h : r.register name sync handler = (os, .ok r')) : r'.ReturnsValues := by
  unfold Registry.register at h
  cases hrefusal : r.refusal? name sync handler with
  | some refusal => simp [hrefusal] at h
  | none =>
    simp only [hrefusal, Prod.mk.injEq, Except.ok.injEq] at h
    intro entry hmem
    rw [← h.2, List.mem_append] at hmem
    rcases hmem with hmem | hmem
    · exact hr entry hmem
    · obtain ⟨handler', hhandler, rfl⟩ := List.mem_map.mp hmem
      exact hh handler' (Option.mem_toList.mp hhandler)

end Registry

end UrlTemplate
