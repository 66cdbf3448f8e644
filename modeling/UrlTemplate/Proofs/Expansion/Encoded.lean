import UrlTemplate.Proofs.Encoding
import UrlTemplate.Proofs.Filter.Presence
import UrlTemplate.Proofs.Template.Places

/-!
# Turning the encoding off

A request is run twice, with encoding and without, by a service of built-in filters and in scopes
whose texts have no slots (`Scopes.Flat`), so that nothing encoded gets into a chain of filters. A
placeholder then begins with the same value in both runs (`Expander.start_encoding`), and its final
value, which is what it gets the text of, is the same and present or the empty text. For such a
value the encoded text is empty exactly if the text is
(`Value.PresentOrEmpty.encodeValue_eq_empty_iff`), so the suffix stands in both runs or in none, and
the encoded text stands for the value (`Value.PresentOrEmpty.standsFor`). `Expander.Fills` says all
that a slot can get in the two runs.

**Theorem** (`Service.expandWithin_encoding`): both runs show the same, and each slot gets an
encoded text and a text of the same value.
-/

namespace UrlTemplate

open Template Text

/-! ### Values and their encoded texts -/

/-- A list that is present or empty has an item. -/
theorem Value.PresentOrEmpty.ne_nil {items : List Value} (h : (Value.list items).PresentOrEmpty) :
    items ≠ [] := by
  rintro rfl
  rcases h with h | h <;> cases h

/-- A value that is present or empty has an empty encoded text exactly if its text is empty. -/
theorem Value.PresentOrEmpty.encodeValue_eq_empty_iff {v : Value} (h : v.PresentOrEmpty) :
    encodeValue v = "" ↔ v.text = "" := by
  rw [← String.toList_eq_nil_iff, ← String.toList_eq_nil_iff, Value.toList_text]
  by_cases hlist : ∃ items, v = .list items
  · obtain ⟨items, rfl⟩ := hlist
    have hencoded : encodeItems items =
        joinChars ',' ((items.map Value.textChars).map percentChars) := by
      rw [encodeItems, List.map_map]
      rfl
    rw [toList_encodeValue_list h.ne_nil, hencoded,
      joinChars_map_eq_nil_iff fun _ => percentChars_eq_nil_iff, Value.textChars,
      Value.itemTextChars_eq]
  · rcases h with htruthy | rfl
    · rw [toList_encodeValue htruthy fun items heq => hlist ⟨items, heq⟩, encodeText_eq_nil_iff]
    · rw [toList_encodeValue_str, encodeText_eq_nil_iff, Value.textChars]

/-- An encoded text stands for a value: for the text of each item of a list, and for the text of any
other value. -/
inductive StandsFor (encoded : String) : Value → Prop
  | items {items : List Value}
      (h : (splitAt ',' encoded).map percentDecode? = items.map fun item => some item.text)
      (htext : (Value.list items).text = join ',' (items.map Value.text)) :
      StandsFor encoded (.list items)
  | text {v : Value} (hv : ∀ items, v ≠ .list items)
      (h : decodeText? encoded.toList = some v.text.toList) : StandsFor encoded v

/-- The encoded text of a value that is present or empty stands for it. -/
theorem Value.PresentOrEmpty.standsFor {v : Value} (h : v.PresentOrEmpty) :
    StandsFor (encodeValue v) v := by
  by_cases hlist : ∃ items, v = .list items
  · obtain ⟨items, rfl⟩ := hlist
    refine .items (map_percentDecode?_encodeValue_list h.ne_nil) ?_
    have htexts : (items.map Value.text).map String.toList = items.map Value.textChars := by
      rw [List.map_map]
      exact List.map_congr_left fun item _ => item.toList_text
    rw [Value.text, Value.textChars, Value.itemTextChars_eq, join, htexts]
  · have hv : ∀ items, v ≠ .list items := fun items heq => hlist ⟨items, heq⟩
    rcases h with htruthy | rfl
    · exact .text hv (decodeText?_encodeValue htruthy hv)
    · exact .text hv (by rw [decodeText?_encodeValue_str, Value.text_str])

/-! ### Scopes without slots -/

/-- No variable is a text with a slot. -/
def Scopes.Flat (scopes : Scopes) : Prop :=
  ∀ scope ∈ scopes.inOrder, ∀ name text, lookup scope name = .ok (.str text) →
    occurrences text = []

/-- In flat scopes no name stands for a text with a slot. -/
theorem Scopes.Flat.slots_eq_nil {scopes : Scopes} (h : scopes.Flat) {name text : String}
    (hres : scopes.resolve name = .ok (.str text)) : (scan text.toList).slots = [] := by
  rcases Scopes.resolve_eq_ok hres with hempty | ⟨scope, hscope, hlookup⟩
  · cases hempty
    decide +kernel
  · exact Template.slots_eq_nil (h scope hscope name text hlookup)

/-- Scopes of an event are flat if none of the texts among its variables has a slot. -/
theorem Scopes.flat_ofEvent {vars : Fields}
    (h : ∀ text, Value.str text ∈ vars.map Prod.snd → occurrences text = []) :
    (Scopes.ofEvent vars).Flat := by
  intro scope hscope name text hlookup
  simp only [ofEvent, inOrder, List.mem_cons, List.not_mem_nil, or_false] at hscope
  rcases hscope with rfl | rfl | rfl
  · have hevent := Scopes.lookup_ofEvent vars name
    rw [ofEvent, hlookup, Except.ok.injEq] at hevent
    cases hvar : vars.lookup name with
    | none =>
      rw [hvar] at hevent
      cases hevent
    | some v =>
      rw [hvar, Option.getD_some] at hevent
      exact h text (List.mem_map.mpr ⟨_, Entries.mem_of_lookup hvar, hevent.symm⟩)
  · cases hlookup
  · cases hlookup

namespace Expander

variable {x : Expander} {nested : List Char → Task} {body : List Char} {p : Placeholder}

/-! ### The final value of a placeholder -/

/-- The value with which the filters of a placeholder begin: that of its variable, expanded if it is
a text. -/
def startValue (x : Expander) (nested : List Char → Task) (name : String) :
    Except ExpansionError Value :=
  match x.scopes.resolve name with
  | .error fault => .error (.scope fault)
  | .ok (.str s) => (nested s.toList).run.result.map fun piece => .str (String.ofList piece.text)
  | .ok v => .ok v

/-- The value with which the filters of a placeholder end, and which it gets the text of. -/
def finalValue (x : Expander) (nested : List Char → Task) (p : Placeholder) :
    Except ExpansionError Value := do
  let v ← x.startValue nested p.reference.name
  (x.registry.applyFilters (.ready v) p.segments).2.readable.mapError .noText

/-- A chain that ends with a value takes the first value of a placeholder to its final one. -/
theorem finalValue_of_start {v w : Value} (h : x.startValue nested p.reference.name = .ok v)
    (hw : (x.registry.applyFilters (.ready v) p.segments).2 = .ready w) :
    x.finalValue nested p = .ok w := by
  unfold finalValue
  rw [h]
  show (x.registry.applyFilters (.ready v) p.segments).2.readable.mapError ExpansionError.noText = _
  rw [hw]
  rfl

/-! ### A slot in two runs -/

/-- The same expander, with encoding or without. -/
def encoding (x : Expander) (encode : Bool) : Expander :=
  { x with encode }

/-- What a slot gets in the run with encoding and in the run without, with a number of levels below
it. -/
inductive Fills (x : Expander) (levels : Nat) (body : List Char) : (encoded plain : String) → Prop
  /-- A malformed slot gets nothing. -/
  | malformed {e : PlaceholderError} (h : readSlot body = .error e) : Fills x levels body "" ""
  /-- The final value is the same in both runs and has an empty text; the slot gets nothing. -/
  | empty {p : Placeholder} {v : Value} (h : readSlot body = .ok p)
      (hv : ∀ encode, (x.encoding encode).finalValue ((x.encoding encode).expand levels) p = .ok v)
      (hpresent : v.PresentOrEmpty) (htext : v.text = "") : Fills x levels body "" ""
  /-- The final value is the same in both runs. The slot gets its text, or an encoded text that
  stands for it, and the suffix of the reference in both runs. -/
  | text {p : Placeholder} {v : Value} {encoded : String} (h : readSlot body = .ok p)
      (hv : ∀ encode, (x.encoding encode).finalValue ((x.encoding encode).expand levels) p = .ok v)
      (hpresent : v.PresentOrEmpty) (htext : v.text ≠ "") (hencoded : encoded ≠ "")
      (hstands : StandsFor encoded v) :
      Fills x levels body (encoded ++ p.reference.suffix) (v.text ++ p.reference.suffix)

/-- A text without slots is expanded in the same way with encoding and without. -/
theorem run_expand_encoding {template : List Char} (h : (scan template).slots = []) (levels : Nat) :
    ∃ os exhausted, ∀ encode, ((x.encoding encode).expand levels template).run =
      ⟨os, .ok ⟨template, exhausted⟩⟩ := by
  cases levels with
  | zero =>
    refine ⟨x.registry.context.diagnostics.userError "max_depth_reached"
      [("detail", .str depthDetail), ("template", .str (String.ofList template))], true, ?_⟩
    intro encode
    exact run_expand_zero (x.encoding encode) template
  | succ levels =>
    refine ⟨[], false, ?_⟩
    intro encode
    exact run_expand_of_no_slots h

/-- The final texts of a value that is present or empty, as slots get them. -/
theorem fills_finalText (levels : Nat) {v : Value} (h : readSlot body = .ok p)
    (hv : ∀ encode, (x.encoding encode).finalValue ((x.encoding encode).expand levels) p = .ok v)
    (hpresent : v.PresentOrEmpty) :
    x.Fills levels body (String.ofList ((x.encoding true).finalText p.reference v))
      (String.ofList ((x.encoding false).finalText p.reference v)) := by
  have hencoded : (x.encoding true).finalText p.reference v =
      if encodeValue v = "" then [] else (encodeValue v).toList ++ p.reference.suffix.toList := rfl
  have hplain : (x.encoding false).finalText p.reference v =
      if v.text = "" then [] else v.text.toList ++ p.reference.suffix.toList := rfl
  rw [hencoded, hplain]
  by_cases htext : v.text = ""
  · rw [if_pos htext, if_pos (hpresent.encodeValue_eq_empty_iff.mpr htext)]
    exact .empty h hv hpresent htext
  · have hne : encodeValue v ≠ "" := mt hpresent.encodeValue_eq_empty_iff.mp htext
    rw [if_neg htext, if_neg hne, ← String.toList_append, ← String.toList_append,
      String.ofList_toList, String.ofList_toList]
    exact .text h hv hpresent htext hne hpresent.standsFor

/-- The filters of a placeholder begin with the same value with encoding and without, and what has
been shown before is the same. -/
theorem start_encoding (hwell : x.scopes.WellFormed) (hflat : x.scopes.Flat) (levels : Nat)
    {body : List Char} {p : Placeholder} (h : readSlot body = .ok p) :
    ∃ os exhausted v, v.PresentOrEmpty ∧ ∀ encode,
      (x.encoding encode).startValue ((x.encoding encode).expand levels) p.reference.name =
        .ok v ∧
      ((x.encoding encode).resolveSlot ((x.encoding encode).expand levels) body).run =
        ⟨os ++ ((x.encoding encode).filtered p v exhausted).run.observations,
          ((x.encoding encode).filtered p v exhausted).run.result⟩ := by
  obtain ⟨v, hres⟩ := hwell.exists_resolve p.reference.name
  have hres' (encode : Bool) : (x.encoding encode).scopes.resolve p.reference.name = .ok v := hres
  by_cases htext : ∃ s, v = .str s
  · obtain ⟨s, rfl⟩ := htext
    -- the text stays as it is at every level, also where the levels have run out
    obtain ⟨os, exhausted, hnested⟩ := x.run_expand_encoding (hflat.slots_eq_nil hres) levels
    refine ⟨os, exhausted, .str s, Value.presentOrEmpty_str s, ?_⟩
    intro encode
    have hok := congrArg Outcome.result (hnested encode)
    refine ⟨?_, ?_⟩
    · unfold startValue
      simp only [hres' encode, hnested encode, Except.map, String.ofList_toList]
    · rw [resolveSlot_of_text h (hres' encode), Task.run_bind, Outcome.andThen_of_ok hok,
        hnested encode, String.ofList_toList]
  · have hv : ∀ s, v ≠ .str s := fun s hs => htext ⟨s, hs⟩
    refine ⟨[], false, v, Scopes.presentOrEmpty_of_resolve hres, ?_⟩
    intro encode
    refine ⟨?_, ?_⟩
    · unfold startValue
      rw [hres' encode]
      cases v with
      | str s => exact absurd rfl (hv s)
      | _ => rfl
    · rw [resolveSlot_of_value h (hres' encode) hv, List.nil_append]

/-- **A slot shows the same with encoding and without, and gets texts of the same value.** -/
theorem run_resolveSlot_encoding (hfilters : x.registry.filters = Registry.builtins)
    (hwell : x.scopes.WellFormed) (hflat : x.scopes.Flat) (levels : Nat) (body : List Char) :
    ∃ os exhausted encoded plain, x.Fills levels body encoded plain ∧
      ((x.encoding true).resolveSlot ((x.encoding true).expand levels) body).run =
        ⟨os, .ok ⟨encoded.toList, exhausted⟩⟩ ∧
      ((x.encoding false).resolveSlot ((x.encoding false).expand levels) body).run =
        ⟨os, .ok ⟨plain.toList, exhausted⟩⟩ := by
  rcases hread : readSlot body with e | p
  · have hrun (encode : Bool) :
        ((x.encoding encode).resolveSlot ((x.encoding encode).expand levels) body).run =
          ⟨Step.observations (x.registry.report "invalid_placeholder"
            [("placeholder", .str (String.ofList (slotSource body))), ("error", .str e.message)]),
            .ok ⟨"".toList, false⟩⟩ := by
      rw [resolveSlot_of_malformed hread, Task.run_after, Task.run, List.append_nil]
      rfl
    exact ⟨_, false, "", "", .malformed hread, hrun true, hrun false⟩
  · obtain ⟨os, exhausted, v, hpresent, hstart⟩ := x.start_encoding hwell hflat levels hread
    obtain ⟨w, hw, hpresent'⟩ :=
      Registry.applyFilters_builtins hfilters hpresent p.segments
    have hvalue (encode : Bool) :
        (x.encoding encode).finalValue ((x.encoding encode).expand levels) p = .ok w :=
      finalValue_of_start (hstart encode).1 hw
    let os' := Step.observations (x.registry.applyFilters (.ready v) p.segments).1 ++
      x.resolvedCount
    have hrun (encode : Bool) :
        ((x.encoding encode).resolveSlot ((x.encoding encode).expand levels) body).run =
          ⟨os ++ os', .ok ⟨(x.encoding encode).finalText p.reference w, exhausted⟩⟩ := by
      have hready : ((x.encoding encode).registry.applyFilters (.ready v) p.segments).2 =
          .ready w := hw
      rw [(hstart encode).2, run_filtered, hready]
      rfl
    refine ⟨os ++ os', exhausted, String.ofList ((x.encoding true).finalText p.reference w),
      String.ofList ((x.encoding false).finalText p.reference w),
      fills_finalText levels hread hvalue hpresent', ?_, ?_⟩
    · rw [hrun true, String.toList_ofList]
    · rw [hrun false, String.toList_ofList]

/-! ### A template in two runs -/

/-- What a template shows whose slots show some observations: a note that it is expanded and then
these, and nothing if it has no slots. -/
def shownOfSlots (levels : Nat) (template : List Char) (os : List Char → List Observation) :
    List Observation :=
  if (scan template).slots = [] then []
  else
    Diagnostics.debug "expanding_template"
      [("placeholders", .int (scan template).slots.length), ("iterations", .int levels)] ::
      (scan template).slots.flatMap fun slot => os slot.body

/-- A template whose slots succeed shows what they show and gets their texts. -/
theorem run_expand_of_slots_ok {levels : Nat} {template : List Char}
    {os : List Char → List Observation} {piece : List Char → Piece}
    (h : ∀ body, (x.resolveSlot (x.expand levels) body).run = ⟨os body, .ok (piece body)⟩) :
    (x.expand (levels + 1) template).run =
      ⟨shownOfSlots levels template os,
        .ok (splice (scan template) ((scan template).slots.map fun slot => piece slot.body))⟩ := by
  have hall : (Task.runAll (x.slotTasks levels template)).result =
      .ok ((scan template).slots.map fun slot => piece slot.body) := by
    rw [Task.runAll_eq_ok_iff, slotTasks, List.map_map, List.map_map]
    refine List.map_congr_left ?_
    intro slot _
    simp only [Function.comp_apply, h]
  have hresult := x.result_expand_succ levels template
  have hshown : (x.expand (levels + 1) template).run.observations =
      shownOfSlots levels template os := by
    unfold shownOfSlots
    by_cases hslots : (scan template).slots = []
    · rw [run_expand_of_no_slots hslots, if_pos hslots]
    · rw [run_expand_of_slots hslots, if_neg hslots, Task.observations_runAll_of_ok hall, slotTasks,
        List.flatMap_map]
      simp only [h]
  rw [hall] at hresult
  calc (x.expand (levels + 1) template).run
      = ⟨(x.expand (levels + 1) template).run.observations,
          (x.expand (levels + 1) template).run.result⟩ := rfl
    _ = _ := by rw [hshown, hresult]; rfl

/-- A template shows the same with encoding and without, and its slots get texts of the same
values. -/
theorem run_expand_succ_encoding (hfilters : x.registry.filters = Registry.builtins)
    (hwell : x.scopes.WellFormed) (hflat : x.scopes.Flat) (levels : Nat) (template : List Char) :
    ∃ os exhausted, ∃ encoded plain : List Char → String,
      (∀ body, x.Fills levels body (encoded body) (plain body)) ∧
      ((x.encoding true).expand (levels + 1) template).run =
        ⟨os, .ok ⟨Segmentation.fill (scan template).slots (scan template).tail
          ((scan template).slots.map fun slot => (encoded slot.body).toList), exhausted⟩⟩ ∧
      ((x.encoding false).expand (levels + 1) template).run =
        ⟨os, .ok ⟨Segmentation.fill (scan template).slots (scan template).tail
          ((scan template).slots.map fun slot => (plain slot.body).toList), exhausted⟩⟩ := by
  choose os exhausted encoded plain hfills hencoded hplain using
    x.run_resolveSlot_encoding hfilters hwell hflat levels
  refine ⟨shownOfSlots levels template os,
    (scan template).slots.any fun slot => exhausted slot.body, encoded, plain, hfills, ?_, ?_⟩
  · rw [run_expand_of_slots_ok hencoded, splice, List.map_map, List.any_map]
    rfl
  · rw [run_expand_of_slots_ok hplain, splice, List.map_map, List.any_map]
    rfl

end Expander

namespace Service

variable (s : Service) {scopes : Scopes}

/-! ### Requests -/

/-- **Turning the encoding off changes only the encoding: a service of built-in filters shows the
same for a request with and without it, and every slot gets the text of the same value, a value that
is present or the empty text, or an encoded text that stands for it, and in both cases the suffix of
its reference or in neither.** -/
theorem expandWithin_encoding (hfilters : s.registry.filters = Registry.builtins)
    (template : String) (hwell : scopes.WellFormed) (hflat : scopes.Flat) {n : Int} (hn : 0 ≤ n) :
    (s.expandWithin template scopes (some true) n).observations =
      (s.expandWithin template scopes (some false) n).observations ∧
    ∃ encoded plain : String → String,
      (s.expandWithin template scopes (some true) n).result =
        .ok (replaceSlots template ((occurrences template).map (encoded ·.body))) ∧
      (s.expandWithin template scopes (some false) n).result =
        .ok (replaceSlots template ((occurrences template).map (plain ·.body))) ∧
      ∀ slot ∈ occurrences template,
        Expander.Fills ⟨s.registry, scopes, s.encode, s.recordMetrics⟩ n.toNat slot.body.toList
          (encoded slot.body) (plain slot.body) := by
  obtain ⟨os, exhausted, encoded, plain, hfills, hencoded, hplain⟩ :=
    Expander.run_expand_succ_encoding (x := ⟨s.registry, scopes, s.encode, s.recordMetrics⟩)
      hfilters hwell hflat n.toNat template.toList
  have hrun (encode : Bool) : s.runWithin template scopes (some encode) n =
      ((Expander.encoding ⟨s.registry, scopes, s.encode, s.recordMetrics⟩ encode).expand
        (n.toNat + 1) template.toList).run := by
    have hlevels : (n + 1).toNat = n.toNat + 1 := by omega
    unfold runWithin
    rw [hlevels]
    rfl
  have htexts (text : List Char → String) : (((occurrences template).map fun slot =>
        text slot.body.toList).map String.toList) =
      (scan template.toList).slots.map fun slot => (text slot.body).toList := by
    rw [List.map_map]
    refine map_occurrences _ (fun body => (text body).toList) ?_ template
    intro start stop body
    simp only [Function.comp_apply, String.toList_ofList]
  refine ⟨?_, fun body => encoded body.toList, fun body => plain body.toList, ?_, ?_, ?_⟩
  · have hshown (encode : Bool) {piece : Piece}
        (h : (s.runWithin template scopes (some encode) n).result = .ok piece) :
        (s.expandWithin template scopes (some encode) n).observations =
          (s.runWithin template scopes (some encode) n).observations ++
            Step.observations (s.finalCounts piece) :=
      @observations_expand_of_ok s ⟨.str template, scopes, some n, some encode⟩ template rfl piece h
    rw [hshown true (congrArg Outcome.result ((hrun true).trans hencoded)),
      hshown false (congrArg Outcome.result ((hrun false).trans hplain)), hrun true, hrun false,
      hencoded, hplain]
    rfl
  · rw [result_expandWithin, hrun, hencoded, replaceSlots, htexts encoded]
    rfl
  · rw [result_expandWithin, hrun, hplain, replaceSlots, htexts plain]
    rfl
  · intro slot _
    exact hfills slot.body.toList

/-- A list, a text in the form of a call, and a number that does not count as present. -/
def mixedScopes : Scopes :=
  .ofEvent [("items", .list [.str "a b", .int 3]), ("call", .str "f g(x y)"), ("zero", .int 0)]

/-- A list that a filter refuses, a call, a number that gives way to the empty text, with and
without a filter, and a malformed slot. -/
def mixedTemplate : String :=
  "${items(1)|trim} ${call(2)} ${zero(3)} ${zero|not}${}"

/-- The items of a list are encoded one by one, and a call without its arguments; an empty text has
no suffix in either run. -/
theorem expandWithin_encoding_mixed :
    (metered.expandWithin mixedTemplate mixedScopes (some true) 0).observations =
      (metered.expandWithin mixedTemplate mixedScopes (some false) 0).observations ∧
    (metered.expandWithin mixedTemplate mixedScopes (some true) 0).result.toOption =
      some "a%20b,3(1) f%20g(x y)(2)  true" ∧
    (metered.expandWithin mixedTemplate mixedScopes (some false) 0).result.toOption =
      some "a b,3(1) f g(x y)(2)  true" ∧
    ∃ encoded plain, Expander.Fills 
      ⟨metered.registry, mixedScopes, metered.encode, metered.recordMetrics⟩ 0
      "items(1)|trim".toList encoded plain := by
  have hwell : mixedScopes.WellFormed := by decide
  have hflat : mixedScopes.Flat := by
    refine Scopes.flat_ofEvent ?_
    intro text hmem
    simp only [List.map_cons, List.map_nil, List.mem_cons, List.not_mem_nil, or_false] at hmem
    rcases hmem with hitems | hcall | hzero
    · cases hitems
    · cases hcall
      decide +kernel
    · cases hzero
  have hslot : (⟨0, 16, "${items(1)|trim}", "items(1)|trim"⟩ : Occurrence) ∈
      occurrences mixedTemplate := by
    decide +kernel
  obtain ⟨hshown, encoded, plain, -, -, hfills⟩ :=
    metered.expandWithin_encoding rfl mixedTemplate hwell hflat (show (0 : Int) ≤ 0 by decide)
  exact ⟨hshown, by decide +kernel, by decide +kernel, _, _, hfills _ hslot⟩

end Service

end UrlTemplate
