import UrlTemplate.Proofs.Expansion.Composition
import UrlTemplate.Proofs.Template.RoundTrip

/-!
# The places of slots

Where slots may stand is a matter of places in the template alone. A slot stands at its place if the
template reads so there (`Occurrence.StandsIn`), and a list of slots cuts the template from a place
on if they stand behind that place, one after the other, and no place between them opens a slot that
is closed anywhere later (`IsCut`). The first slot of a cut begins at the first such place, and ends
at the first closing brace, so a template has one cut at most (`IsCut.unique`); the slots that are
found are one (`isCut_occurrences`).

What stands between the places and other texts at the places is the template with its slots replaced
(`weave_gaps`).

**Theorem** (`isCut_iff_eq_occurrences`): the slots that are found are the one cut of a template,
they and what stands between them are the template, and a template without any is answered with
itself.
-/

namespace UrlTemplate

namespace Template

/-! ### Cuts by places -/

/-- An opening stands at a place of the template, and a closing brace anywhere after it. -/
def OpensAt (template : List Char) (i : Nat) : Prop :=
  ∃ rest, template.drop i = '$' :: '{' :: rest ∧ '}' ∈ rest

/-- The template has the slot at its place. -/
structure Occurrence.StandsIn (slot : Occurrence) (template : List Char) : Prop where
  source : slot.source.toList = slotSource slot.body.toList
  body : '}' ∉ slot.body.toList
  stop : slot.stop = slot.start + slot.source.toList.length
  place : (template.take slot.stop).drop slot.start = slot.source.toList

/-- The slots cut what the template has from a place on. -/
structure IsCut (template : List Char) (cursor : Nat) (slots : List Occurrence) : Prop where
  stands : ∀ slot ∈ slots, slot.StandsIn template
  /-- The slots stand in order and share no place. -/
  ordered : slots.Pairwise fun a b => a.stop ≤ b.start
  behind : ∀ slot ∈ slots, cursor ≤ slot.start
  /-- A place that opens a slot which is closed later is a place of some slot. -/
  complete : ∀ i, cursor ≤ i → OpensAt template i → ∃ slot ∈ slots, slot.start ≤ i ∧ i < slot.stop

/-- Gaps and texts in turn, a gap first and the gaps that are left in the end. -/
def weave : (gaps texts : List String) → String
  | gap :: gaps, text :: texts => gap ++ text ++ weave gaps texts
  | gaps, _ => String.join gaps

/-! ### A template has one cut at most -/

variable {template : List Char} {cursor : Nat} {slot slot' : Occurrence}
  {slots slots' : List Occurrence}

/-- From the place of a slot on, the template has the slot and then what stands behind it. -/
theorem Occurrence.StandsIn.drop_start (h : slot.StandsIn template) :
    template.drop slot.start = slotSource slot.body.toList ++ template.drop slot.stop := by
  have htake : (template.drop slot.start).take slot.source.toList.length =
      slotSource slot.body.toList := by
    have hplace := h.place
    rw [List.drop_take, h.stop, Nat.add_sub_cancel_left] at hplace
    rw [hplace, h.source]
  have hdrop : (template.drop slot.start).drop slot.source.toList.length =
      template.drop slot.stop := by
    rw [List.drop_drop, h.stop]
  rw [← htake, ← hdrop, List.take_append_drop]

/-- A slot takes up some places. -/
theorem Occurrence.StandsIn.start_lt_stop (h : slot.StandsIn template) :
    slot.start < slot.stop := by
  rw [h.stop, h.source]
  simp [slotSource]

/-- The place of a slot opens a slot that is closed. -/
theorem Occurrence.StandsIn.opensAt (h : slot.StandsIn template) : OpensAt template slot.start := by
  refine ⟨slot.body.toList ++ ['}'] ++ template.drop slot.stop, ?_, by simp⟩
  rw [h.drop_start]
  rfl

/-- A slot is known from the place where it begins: it ends at the first closing brace. -/
theorem Occurrence.StandsIn.eq_of_start (h : slot.StandsIn template) (h' : slot'.StandsIn template)
    (hstart : slot.start = slot'.start) : slot = slot' := by
  have hcut {s : Occurrence} (hs : s.StandsIn template) :
      Text.cutAt? '}' ((template.drop s.start).drop 2) =
        some (s.body.toList, template.drop s.stop) := by
    refine Text.cutAt?_eq_some_iff.mpr ⟨?_, hs.body⟩
    rw [hs.drop_start]
    simp [slotSource]
  have hsame := hcut h
  rw [hstart, hcut h', Option.some.injEq, Prod.mk.injEq] at hsame
  have hbody : slot.body = slot'.body := (String.toList_inj.mp hsame.1).symm
  have hsource : slot.source = slot'.source := by
    rw [← String.toList_inj, h.source, h'.source, hbody]
  have hstop : slot.stop = slot'.stop := by
    rw [h.stop, h'.stop, hstart, hsource]
  obtain ⟨start, stop, source, body⟩ := slot
  obtain ⟨start', stop', source', body'⟩ := slot'
  rw [Occurrence.mk.injEq]
  exact ⟨hstart, hstop, hsource, hbody⟩

/-- The first slot begins no later than any place that opens a slot which is closed. -/
theorem IsCut.start_le (h : IsCut template cursor (slot :: slots)) {i : Nat} (hi : cursor ≤ i)
    (hopen : OpensAt template i) : slot.start ≤ i := by
  obtain ⟨s, hs, hle, -⟩ := h.complete i hi hopen
  rcases List.mem_cons.mp hs with rfl | hs
  · exact hle
  · have hnext := List.rel_of_pairwise_cons h.ordered hs
    have hfirst := (h.stands slot List.mem_cons_self).start_lt_stop
    omega

/-- The slots behind the first one cut what stands behind it. -/
theorem IsCut.tail (h : IsCut template cursor (slot :: slots)) :
    IsCut template slot.stop slots := by
  have hbehind : ∀ s ∈ slots, slot.stop ≤ s.start := fun s hs =>
    List.rel_of_pairwise_cons h.ordered hs
  refine ⟨fun s hs => h.stands s (List.mem_cons_of_mem _ hs), h.ordered.of_cons, hbehind, ?_⟩
  intro i hi hopen
  have hslot := h.behind slot List.mem_cons_self
  have hlt := (h.stands slot List.mem_cons_self).start_lt_stop
  obtain ⟨s, hs, hle, hbefore⟩ := h.complete i (by omega) hopen
  rcases List.mem_cons.mp hs with rfl | hs
  · omega
  · exact ⟨s, hs, hle, hbefore⟩

/-- **A template has one cut at most.** -/
theorem IsCut.unique (h : IsCut template cursor slots) (h' : IsCut template cursor slots') :
    slots = slots' := by
  induction slots generalizing cursor slots' with
  | nil =>
    cases slots' with
    | nil => rfl
    | cons slot' slots' =>
      have hfirst := List.mem_cons_self (a := slot') (l := slots')
      obtain ⟨s, hs, -⟩ := h.complete _ (h'.behind slot' hfirst) (h'.stands slot' hfirst).opensAt
      cases hs
  | cons slot slots ih =>
    have hstands := h.stands slot List.mem_cons_self
    have hbehind := h.behind slot List.mem_cons_self
    cases slots' with
    | nil =>
      obtain ⟨s, hs, -⟩ := h'.complete _ hbehind hstands.opensAt
      cases hs
    | cons slot' slots' =>
      have hstands' := h'.stands slot' List.mem_cons_self
      have hbehind' := h'.behind slot' List.mem_cons_self
      have hstart : slot.start = slot'.start :=
        Nat.le_antisymm (h.start_le hbehind' hstands'.opensAt)
          (h'.start_le hbehind hstands.opensAt)
      obtain rfl := hstands.eq_of_start hstands' hstart
      rw [ih h.tail h'.tail]

/-! ### The slots that are found -/

/-- A slot in front of a cut, with no place before it that opens a closed slot, gives a cut. -/
theorem IsCut.cons (hslot : slot.StandsIn template) (hbehind : cursor ≤ slot.start)
    (hgap : ∀ i, cursor ≤ i → i < slot.start → ¬ OpensAt template i)
    (h : IsCut template slot.stop slots) : IsCut template cursor (slot :: slots) := by
  have hlt := hslot.start_lt_stop
  refine ⟨?_, List.pairwise_cons.mpr ⟨h.behind, h.ordered⟩, ?_, ?_⟩
  · intro s hs
    rcases List.mem_cons.mp hs with rfl | hs
    · exact hslot
    · exact h.stands s hs
  · intro s hs
    rcases List.mem_cons.mp hs with rfl | hs
    · exact hbehind
    · have := h.behind s hs
      omega
  · intro i hi hopen
    by_cases hbefore : i < slot.start
    · exact absurd hopen (hgap i hi hbefore)
    by_cases hinside : i < slot.stop
    · exact ⟨slot, List.mem_cons_self, by omega, hinside⟩
    · obtain ⟨s, hs, hplace⟩ := h.complete i (by omega) hopen
      exact ⟨s, List.mem_cons_of_mem _ hs, hplace⟩

/-- A plain text in front of a slot opens no slot. -/
theorem Plain.not_opensAt {gap : List Char} (h : Plain gap) (body rest : List Char) {i : Nat}
    (hi : i < gap.length) : ¬ OpensAt (gap ++ slotSource body ++ rest) i := by
  rintro ⟨after, hafter, -⟩
  rw [List.append_assoc, List.drop_append_of_le_length (by omega)] at hafter
  cases hdrop : gap.drop i with
  | nil =>
    have hlength := congrArg List.length hdrop
    simp at hlength
    omega
  | cons c cs =>
    have hplain : Plain (c :: cs) := by
      rw [← hdrop]
      exact fun hinside => h (hinside.trans (List.drop_suffix i gap).isInfix)
    rw [hdrop] at hafter
    exact hplain.not_prefix (seamless_slotSource _ body rest) ⟨after, hafter.symm⟩

/-- Places behind a text in front are places of what follows it. -/
theorem opensAt_append (front rest : List Char) (i : Nat) :
    OpensAt (front ++ rest) (front.length + i) ↔ OpensAt rest i := by
  unfold OpensAt
  rw [List.drop_append, List.drop_of_length_le (by omega), Nat.add_sub_cancel_left,
    List.nil_append]

/-- The slots of a proper cut, counted from the end of a text in front of it, cut what follows that
text. -/
theorem isCut_occurrencesFrom (front : List Char) {slots : List Slot} {tail : List Char}
    (h : Segmentation.Proper ⟨slots, tail⟩) :
    IsCut (front ++ Segmentation.source ⟨slots, tail⟩) front.length
      (occurrencesFrom front.length slots) := by
  induction slots generalizing front with
  | nil =>
    refine ⟨by simp [occurrencesFrom], .nil, by simp [occurrencesFrom], ?_⟩
    intro i hi hopen
    obtain ⟨k, rfl⟩ := Nat.exists_eq_add_of_le hi
    obtain ⟨rest, hrest, hclosed⟩ := (opensAt_append front _ k).mp hopen
    have htail : tail = tail.take k ++ '$' :: '{' :: rest := by
      rw [← hrest]
      exact (List.take_append_drop k tail).symm
    exact absurd hclosed (h.tail _ _ htail)
  | cons slot slots ih =>
    have hproper : Segmentation.Proper ⟨slots, tail⟩ :=
      ⟨fun s hs => h.bodies s (List.mem_cons_of_mem _ hs),
        fun s hs => h.gaps s (List.mem_cons_of_mem _ hs), h.tail⟩
    have hrest := ih (front ++ slot.gap ++ slotSource slot.body) hproper
    rw [List.length_append, List.length_append] at hrest
    have hsource : front ++ Segmentation.source ⟨slot :: slots, tail⟩ =
        front ++ slot.gap ++ slotSource slot.body ++ Segmentation.source ⟨slots, tail⟩ := by
      simp only [Segmentation.source_cons, List.append_assoc]
    rw [occurrencesFrom, hsource]
    refine .cons ?_ (Nat.le_add_right _ _) ?_ hrest
    · refine ⟨by simp, by simpa using h.bodies slot List.mem_cons_self, by simp, ?_⟩
      rw [← List.length_append, ← List.length_append, List.take_left, List.drop_left,
        String.toList_ofList]
    · intro i hi hbefore
      obtain ⟨k, rfl⟩ := Nat.exists_eq_add_of_le hi
      have hk : k < slot.gap.length := by
        have hbefore' : front.length + k < front.length + slot.gap.length := hbefore
        omega
      rw [List.append_assoc, List.append_assoc, opensAt_append, ← List.append_assoc]
      exact (h.gaps slot List.mem_cons_self).not_opensAt slot.body _ hk

/-- The slots of a template are a cut of it. -/
theorem isCut_occurrences (template : String) :
    IsCut template.toList 0 (occurrences template) := by
  have hcut := isCut_occurrencesFrom [] (proper_scan template.toList)
  have hsource : Segmentation.source ⟨(scan template.toList).slots, (scan template.toList).tail⟩ =
      template.toList := source_scan template.toList
  rw [hsource, List.nil_append] at hcut
  exact hcut

/-! ### What stands between the slots -/

/-- The gaps of a cut with a text for each slot are the cut filled with these texts. -/
theorem weave_slots (slots : List Slot) (tail : List Char) {texts : List String}
    (h : texts.length = slots.length) :
    weave (slots.map (String.ofList ·.gap) ++ [String.ofList tail]) texts =
      String.ofList (Segmentation.fill slots tail (texts.map String.toList)) := by
  induction slots generalizing texts with
  | nil =>
    rw [List.length_nil, List.length_eq_zero_iff] at h
    subst h
    simp [weave, Segmentation.fill]
  | cons slot slots ih =>
    cases texts with
    | nil => simp at h
    | cons text texts =>
      rw [List.map_cons, List.cons_append, weave, ih (Nat.succ.inj h), List.map_cons,
        Segmentation.fill, String.ofList_append, String.ofList_append, String.ofList_toList]

/-- There are as many places as slots. -/
theorem length_occurrences (template : String) :
    (occurrences template).length = (scan template.toList).slots.length := by
  have hlength := congrArg List.length (sources_occurrences template)
  rw [List.length_map, List.length_map] at hlength
  exact hlength

/-- What stands between the slots, with a text for each slot, is the template with its slots
replaced by these texts. -/
theorem weave_gaps (template : String) {texts : List String}
    (h : texts.length = (occurrences template).length) :
    weave (gaps template) texts = replaceSlots template texts := by
  rw [length_occurrences] at h
  rw [gaps_eq, weave_slots _ _ h, replaceSlots]

/-- The slots of a template as they stand in it are those that are found in its characters. -/
theorem toList_sources_occurrences (template : String) :
    (occurrences template).map (·.source.toList) =
      (scan template.toList).slots.map fun slot => slotSource slot.body := by
  have hsources := congrArg (List.map String.toList) (sources_occurrences template)
  rw [List.map_map, List.map_map] at hsources
  refine hsources.trans (List.map_congr_left ?_)
  intro slot _
  exact String.toList_ofList

/-- What stands between the slots, with the slots themselves, is the template. -/
theorem weave_sources (template : String) :
    weave (gaps template) ((occurrences template).map Occurrence.source) = template := by
  have hsource := source_scan template.toList
  rw [Segmentation.source, ← toList_sources_occurrences] at hsource
  rw [weave_gaps _ (List.length_map _), replaceSlots, List.map_map]
  exact (congrArg String.ofList hsource).trans String.ofList_toList

/-- A template without places for slots has no slots. -/
theorem slots_eq_nil {template : String} (h : occurrences template = []) :
    (scan template.toList).slots = [] := by
  have hlength := length_occurrences template
  rw [h, List.length_nil] at hlength
  exact List.length_eq_zero_iff.mp hlength.symm

end Template

open Template

/-! ### Templates without slots -/

/-- A template without slots stays as it is, however many levels there are. -/
theorem Expander.text_expand_of_no_slots {x : Expander} {template : List Char}
    (h : (scan template).slots = []) (levels : Nat) :
    (x.expand levels template).run.result.map Piece.text = .ok template := by
  cases levels with
  | zero =>
    rw [run_expand_zero]
    rfl
  | succ levels =>
    rw [run_expand_of_no_slots h]
    rfl

/-- A request for a template without slots is answered with the template, whatever the scopes and
the budget are. -/
theorem Service.result_expand_of_no_slots {s : Service} {request : Request} {template : String}
    (h : request.template = .str template) (hslots : occurrences template = []) :
    (s.expand request).result = .ok template := by
  have htext := (s.expander request).text_expand_of_no_slots (slots_eq_nil hslots)
    (s.levels request)
  rw [Service.result_expand h]
  cases hres : ((s.expander request).expand (s.levels request) template.toList).run.result with
  | error e =>
    rw [hres] at htext
    cases htext
  | ok piece =>
    rw [hres] at htext
    have hpiece : piece.text = template.toList := Except.ok.inj htext
    simp only [Except.map, hpiece, String.ofList_toList]

namespace Template

/-- **The slots that are found are the one cut of the template. They and what stands between them
are the template. And a template without slots is answered with itself under every budget and in
every scope, malformed ones too.** -/
theorem isCut_iff_eq_occurrences (template : String) :
    (∀ slots, IsCut template.toList 0 slots ↔ slots = occurrences template) ∧
    weave (gaps template) ((occurrences template).map Occurrence.source) = template ∧
    (occurrences template = [] →
      ∀ (s : Service) (scopes : Scopes) (iterations : Option Int) (encode : Option Bool),
        (s.expand ⟨.str template, scopes, iterations, encode⟩).result = .ok template) := by
  have hfound := isCut_occurrences template
  refine ⟨?_, weave_sources template, ?_⟩
  · intro slots
    constructor
    · intro hcut
      exact hcut.unique hfound
    · rintro rfl
      exact hfound
  · intro hslots s scopes iterations encode
    exact Service.result_expand_of_no_slots rfl hslots

/-- An opening inside a slot belongs to its body, a slot may be empty, and an opening that is never
closed is text, also where all scopes are malformed. -/
theorem isCut_iff_eq_occurrences_openings :
    IsCut "$$\x7ba$\x7bb\x7d\x7d$\x7b\x7d$\x7bc".toList 0
      [⟨1, 8, "$\x7ba$\x7bb\x7d", "a$\x7bb"⟩, ⟨9, 12, "$\x7b\x7d", ""⟩] ∧
    ((Service.new none 2 true true none).expand
      ⟨.str "\x7d$\x7ba", ⟨.str "none", .int 1, .list [.null]⟩, some 0, none⟩).result =
        .ok "\x7d$\x7ba" := by
  have hslots : occurrences "$$\x7ba$\x7bb\x7d\x7d$\x7b\x7d$\x7bc" =
      [⟨1, 8, "$\x7ba$\x7bb\x7d", "a$\x7bb"⟩, ⟨9, 12, "$\x7b\x7d", ""⟩] := by
    decide +kernel
  have hnone : occurrences "\x7d$\x7ba" = [] := by
    decide +kernel
  exact ⟨((isCut_iff_eq_occurrences _).1 _).mpr hslots.symm,
    (isCut_iff_eq_occurrences _).2.2 hnone _ _ _ _⟩

end Template

end UrlTemplate
