import UrlTemplate.Proofs.Filter.Chain
import UrlTemplate.Proofs.Filter.Hash
import UrlTemplate.Proofs.Scope

/-!
# Values that are present or empty

Values that do not count as present differ in their texts: zero and `false` have one, `null` and the
empty text have none. Of these values only the empty text comes up in a chain of built-in filters
(`Value.PresentOrEmpty`). The value of a variable is present or the empty text
(`Scopes.presentOrEmpty_of_resolve`).

A property that all handlers of a registry keep is kept by every chain
(`Registry.Keeps.applyFilters`), since a segment whose filter is not applied hands on what it
received. The built-in filters keep every property that all texts have
(`Registry.keeps_builtins`): each of them hands on its value or answers with a text. **Theorem**
(`Registry.applyFilters_builtins`): chains of built-in filters keep values present or empty.
-/

namespace UrlTemplate

/-- The value counts as present, or it is the empty text. -/
def Value.PresentOrEmpty (v : Value) : Prop :=
  v.truthy = true ∨ v = .str ""

namespace Value

/-- Every text is present or empty. -/
theorem presentOrEmpty_str (s : String) : (Value.str s).PresentOrEmpty := by
  by_cases hs : s = ""
  · exact .inr (congrArg Value.str hs)
  · exact .inl (decide_eq_true hs)

end Value

/-- The first value that counts as present in some scopes is present, or the empty text. -/
theorem Scopes.presentOrEmpty_of_firstPresent {name : String} {scopes : List Value} {v : Value}
    (h : Scopes.firstPresent name scopes = .ok v) : v.PresentOrEmpty := by
  induction scopes with
  | nil => exact .inr (Except.ok.inj h).symm
  | cons scope rest ih =>
    rw [Scopes.firstPresent_cons] at h
    cases hlookup : lookup scope name with
    | error fault =>
      rw [hlookup] at h
      cases h
    | ok w =>
      by_cases hw : w.truthy = true
      · simp only [hlookup, hw, if_true, Except.ok.injEq] at h
        exact .inl (h ▸ hw)
      · simp only [hlookup, hw] at h
        exact ih h

/-- The value of a variable is present, or the empty text. -/
theorem Scopes.presentOrEmpty_of_resolve {scopes : Scopes} {name : String} {v : Value}
    (h : scopes.resolve name = .ok v) : v.PresentOrEmpty :=
  Scopes.presentOrEmpty_of_firstPresent h

/-! ### What chains keep -/

variable {P : Value → Prop} {context : FilterContext} {r : Registry}

/-- What the handler answers to a value with a property has the property too. -/
def Handler.Keeps (P : Value → Prop) (context : FilterContext) (handler : Handler) : Prop :=
  ∀ v args w, P v → (handler.run context (.ready v) args).outcome = .ok (.ready w) → P w

namespace Registry

open Template

/-- All handlers keep a property. -/
def Keeps (P : Value → Prop) (r : Registry) : Prop :=
  ∀ entry ∈ r.filters, entry.2.Keeps P r.context

/-- The handler of a name keeps what all handlers keep. -/
theorem Keeps.get? (h : r.Keeps P) {name : String} {handler : Handler}
    (hget : r.get? name = some handler) : handler.Keeps P r.context :=
  h (name, handler) (Entries.mem_of_lookup hget)

/-- A segment keeps what all handlers keep. -/
theorem Keeps.applySegment (h : r.Keeps P) {v w : Value} (hv : P v) {segment : String}
    (hw : (r.applySegment (.ready v) segment).2 = .ready w) : P w := by
  cases hparse : FilterCall.parse segment with
  | error e =>
    rw [applySegment_of_malformed hparse] at hw
    cases hw
    exact hv
  | ok call =>
    cases hget : r.get? call.name with
    | none =>
      rw [applySegment_of_unknown hparse hget] at hw
      cases hw
      exact hv
    | some handler =>
      rw [applySegment_of_handler hparse hget] at hw
      cases houtcome : (handler.run r.context (.ready v) call.args).outcome with
      | error e =>
        rw [applyHandler_of_error houtcome, left_run_ready] at hw
        cases hw
        exact hv
      | ok item =>
        rw [applyHandler_of_ok houtcome] at hw
        exact h.get? hget v call.args w hv (houtcome.trans (congrArg Except.ok hw))

/-- A chain that makes values of values keeps what all handlers keep. -/
theorem Keeps.applyFilters (h : r.Keeps P) (hr : r.ReturnsValues) {v : Value} (hv : P v)
    (segments : List String) :
    ∃ w, (r.applyFilters (.ready v) segments).2 = .ready w ∧ P w := by
  induction segments generalizing v with
  | nil =>
    rw [applyFilters_nil]
    exact ⟨v, rfl, hv⟩
  | cons segment rest ih =>
    obtain ⟨w, hw⟩ := hr.applySegment v segment
    rw [applyFilters_cons, hw]
    exact ih (h.applySegment hv hw)

end Registry

/-! ### What the built-in filters keep -/

/-- What answers with a text, or fails, answers with what all texts have. -/
theorem Value.of_text {α : Type} (htext : ∀ s, P (.str s)) {action : Except FilterError α}
    {text : α → String} {w : Value}
    (h : (do return Value.str (text (← action))) = Except.ok w) : P w := by
  cases action with
  | error e => cases h
  | ok a =>
    rw [← Except.ok.inj h]
    exact htext _

/-- A built-in filter whose arguments are texts keeps every property that all texts have: it hands
on its value, or it answers with a text. -/
theorem Builtin.keeps_apply (htext : ∀ s, P (.str s)) {filter : Builtin} {v w : Value} (hv : P v)
    {args : List String} (h : filter.apply v (args.map .str) = .ok w) : P w := by
  have hargument (args : List String) : P ((args.map Value.str).headD (.str "")) := by
    cases args with
    | nil => exact htext ""
    | cons arg rest => exact htext arg
  have horElse {a b : Value} (ha : P a) (hb : P b) : P (a.orElse b) := by
    unfold Value.orElse
    split
    · exact ha
    · exact hb
  cases filter with
  | default =>
    cases h
    exact horElse hv (horElse (hargument args) (htext ""))
  | substr =>
    unfold apply at h
    cases hs : requireText .substr v with
    | error e =>
      rw [hs] at h
      cases h
    | ok s =>
      rw [hs] at h
      exact Value.of_text htext h
  | trim => exact Value.of_text htext h
  | json => exact @Value.of_text P _ htext _ id _ h
  | toLowerCase => exact Value.of_text htext h
  | toUpperCase => exact Value.of_text htext h
  | not =>
    cases h
    exact htext _
  | base64 => exact Value.of_text htext h
  | «if» =>
    -- whichever way it goes, the answer is an argument
    unfold apply at h
    cases hpresent : v.truthy with
    | true =>
      simp only [hpresent, if_true, Except.ok.injEq] at h
      exact h ▸ hargument args
    | false =>
      simp only [hpresent, Bool.false_eq_true, if_false, Except.ok.injEq, ← List.map_tail] at h
      exact h ▸ hargument args.tail

namespace Registry

/-- The handlers of the built-in filters keep what all texts have. -/
theorem keeps_builtinHandler (htext : ∀ s, P (.str s)) (filter : Builtin)
    (context : FilterContext) : (builtinHandler filter).Keeps P context := by
  have happly : ∀ v args w, P v → filter.applyItem (.ready v) args = .ok (.ready w) → P w := by
    intro v args w hv h
    rw [applyItem_ready] at h
    cases hu : filter.apply v (args.map .str) with
    | error e =>
      rw [hu] at h
      cases h
    | ok u =>
      rw [hu] at h
      cases h
      exact Builtin.keeps_apply htext hv hu
  cases filter <;> exact happly

/-- The filter `hash` answers with a text. -/
theorem keeps_hash (htext : ∀ s, P (.str s)) (context : FilterContext) :
    Handler.hash.Keeps P context := by
  intro v args w _ h
  have hw : (context.hash (.ready v)).2 = w := Item.ready.inj (Except.ok.inj h)
  obtain ⟨result, hresult⟩ := context.exists_hashesTo (.ready v)
  rw [hresult.hash_eq] at hw
  cases result with
  | error problem => exact hw ▸ htext ""
  | ok hash => exact hw ▸ htext hash

/-- A registry of the built-in filters keeps what all texts have. -/
theorem keeps_builtins (htext : ∀ s, P (.str s)) (h : r.filters = builtins) : r.Keeps P := by
  intro entry hmem
  rw [h] at hmem
  simp only [builtins, List.mem_append, List.mem_map, List.mem_cons, List.not_mem_nil,
    or_false] at hmem
  rcases hmem with ⟨filter, -, rfl⟩ | rfl | rfl
  · exact keeps_builtinHandler htext filter r.context
  · exact keeps_hash htext r.context
  · exact keeps_builtinHandler htext .if r.context

/-- **A chain of built-in filters takes a value that is present or empty to such a value.** -/
theorem applyFilters_builtins (h : r.filters = builtins) {v : Value} (hv : v.PresentOrEmpty)
    (segments : List String) :
    ∃ w, (r.applyFilters (.ready v) segments).2 = .ready w ∧ w.PresentOrEmpty := by
  have hvalues : r.ReturnsValues := by
    intro entry hmem
    rw [h] at hmem
    exact returnsValues_new r.context entry hmem
  exact (keeps_builtins Value.presentOrEmpty_str h).applyFilters hvalues hv segments

end Registry

end UrlTemplate
