import UrlTemplate.Template.Segmentation

/-!
# The one way to cut a template

A cut of a template is proper if no body has a closing brace, no gap before a slot opens a slot, and
no opening in the last gap is closed. `scan` finds a proper cut (`proper_scan`), and every proper
cut is the one that `scan` finds in its source (`scan_source`), so a template has exactly one.

What `scan` does with texts in a row follows from the same steps: a text that opens no slot goes
into the gap after it (`scan_plain_append`), slots stay as they are whatever comes after them
(`scan_source_of_slots`), and **two templates that can be joined are cut as one is cut after the
other** (`scan_append`).
-/

namespace UrlTemplate.Template

/-- Nothing in the text opens a slot. -/
def Plain (cs : List Char) : Prop :=
  ¬ ['$', '{'] <:+: cs

instance decidablePlain (cs : List Char) : Decidable (Plain cs) :=
  inferInstanceAs (Decidable (¬ ['$', '{'] <:+: cs))

/-- No opening arises where the second text follows the first one. -/
def Seamless (first second : List Char) : Prop :=
  ¬ (first.getLast? = some '$' ∧ second.head? = some '{')

instance decidableSeamless (first second : List Char) : Decidable (Seamless first second) :=
  inferInstanceAs (Decidable (¬ (_ ∧ _)))

/-! ### Texts that open no slot -/

/-- The rest of a plain text is plain. -/
theorem Plain.of_cons {c : Char} {cs : List Char} (h : Plain (c :: cs)) : Plain cs :=
  fun hinside => h (hinside.trans (List.suffix_cons c cs).isInfix)

/-- A plain text does not begin with an opening, and neither does it if another text follows without
a seam. -/
theorem Plain.not_prefix {c : Char} {cs rest : List Char} (h : Plain (c :: cs))
    (hseam : Seamless (c :: cs) rest) : ¬ ['$', '{'] <+: c :: cs ++ rest := by
  rintro ⟨after, hafter⟩
  cases cs with
  | nil =>
    cases rest with
    | nil => simp at hafter
    | cons d rest =>
      simp only [List.cons_append, List.nil_append, List.cons.injEq] at hafter
      exact hseam ⟨by simp [← hafter.1], by simp [← hafter.2.1]⟩
  | cons d cs =>
    simp only [List.cons_append, List.nil_append, List.cons.injEq] at hafter
    obtain ⟨rfl, rfl, -⟩ := hafter
    exact h ⟨[], cs, rfl⟩

/-- A text without its first character meets what follows it as it did. -/
theorem Seamless.of_cons {c : Char} {first second : List Char} (h : Seamless (c :: first) second) :
    Seamless first second := by
  rintro ⟨hlast, hhead⟩
  refine h ⟨?_, hhead⟩
  rw [List.getLast?_cons, hlast]
  rfl

/-- Plain texts without an opening where they meet are plain together. -/
theorem Plain.append {first second : List Char} (h : Plain first) (h' : Plain second)
    (hseam : Seamless first second) : Plain (first ++ second) := by
  induction first with
  | nil => exact h'
  | cons c first ih =>
    intro hinside
    rw [List.cons_append] at hinside
    rcases List.infix_cons_iff.mp hinside with hfront | hinside
    · exact h.not_prefix hseam hfront
    · exact ih h.of_cons hseam.of_cons hinside

/-- No opening arises where a slot follows a text: a slot does not begin with a brace. -/
theorem seamless_slotSource (first body rest : List Char) :
    Seamless first (slotSource body ++ rest) := by
  rintro ⟨-, hhead⟩
  simp [slotSource] at hhead

/-! ### Steps of the scan -/

namespace Segmentation

/-- Puts a text in front of the first piece. -/
def prepend (text : List Char) (s : Segmentation) : Segmentation :=
  text.foldr push s

/-- A text in front of a slot belongs to the gap before that slot. -/
theorem prepend_cons (text : List Char) (slot : Slot) (slots : List Slot) (tail : List Char) :
    prepend text ⟨slot :: slots, tail⟩ =
      ⟨{ slot with gap := text ++ slot.gap } :: slots, tail⟩ := by
  induction text with
  | nil => rfl
  | cons c text ih =>
    have hpush : prepend (c :: text) ⟨slot :: slots, tail⟩ =
        (prepend text ⟨slot :: slots, tail⟩).push c := rfl
    rw [hpush, ih]
    rfl

/-- A text in front of a text without slots belongs to that text. -/
theorem prepend_nil_slots (text tail : List Char) :
    prepend text ⟨[], tail⟩ = ⟨[], text ++ tail⟩ := by
  induction text with
  | nil => rfl
  | cons c text ih =>
    have hpush : prepend (c :: text) ⟨[], tail⟩ = (prepend text ⟨[], tail⟩).push c := rfl
    rw [hpush, ih]
    rfl

/-- The first slot stands behind its gap, and the others behind it. -/
theorem source_cons (slot : Slot) (slots : List Slot) (tail : List Char) :
    source ⟨slot :: slots, tail⟩ =
      slot.gap ++ (slotSource slot.body ++ source ⟨slots, tail⟩) := by
  simp only [source, List.map_cons, fill, List.append_assoc]

/-- What follows a cut text belongs to its last gap. -/
theorem source_append (s : Segmentation) (rest : List Char) :
    s.source ++ rest = source ⟨s.slots, s.tail ++ rest⟩ := by
  obtain ⟨slots, tail⟩ := s
  induction slots with
  | nil => simp [source, fill]
  | cons slot slots ih => rw [source_cons, source_cons, ← ih]; simp only [List.append_assoc]

end Segmentation

/-- A character that begins no opening belongs to the gap. -/
theorem scan_cons {c : Char} {cs : List Char} (h : ¬ ['$', '{'] <+: c :: cs) :
    scan (c :: cs) = (scan cs).push c := by
  rw [scan]
  intro rest hc hcs
  subst hc hcs
  exact h ⟨rest, rfl⟩

/-- An opening with a closing brace after it is a slot, up to the first such brace. -/
theorem scan_slotSource {body : List Char} (h : '}' ∉ body) (rest : List Char) :
    scan (slotSource body ++ rest) = ⟨⟨[], body⟩ :: (scan rest).slots, (scan rest).tail⟩ := by
  have hcut : Text.cutAt? '}' (body ++ '}' :: rest) = some (body, rest) :=
    Text.cutAt?_eq_some_iff.mpr ⟨rfl, h⟩
  have hsource : slotSource body ++ rest = '$' :: '{' :: (body ++ '}' :: rest) := by
    simp [slotSource]
  rw [hsource, scan]
  split
  · rename_i hcut'
    rw [hcut] at hcut'
    cases hcut'
    rfl
  · rename_i hcut'
    rw [hcut] at hcut'
    cases hcut'

/-- An opening that is never closed is text. -/
theorem scan_unclosed {rest : List Char} (h : '}' ∉ rest) :
    scan ('$' :: '{' :: rest) = ⟨[], '$' :: '{' :: rest⟩ := by
  have hcut : Text.cutAt? '}' rest = none := Text.cutAt?_eq_none_iff.mpr h
  rw [scan]
  split
  · rename_i hcut'
    rw [hcut] at hcut'
    cases hcut'
  · rfl

/-- A plain text belongs to the gap before what follows it. -/
theorem scan_plain_append {text : List Char} (h : Plain text) {rest : List Char}
    (hseam : Seamless text rest) : scan (text ++ rest) = (scan rest).prepend text := by
  induction text with
  | nil => rfl
  | cons c text ih =>
    have hopen : ¬ ['$', '{'] <+: c :: (text ++ rest) := h.not_prefix hseam
    rw [List.cons_append, scan_cons hopen, ih h.of_cons hseam.of_cons]
    rfl

/-- A text in which no opening is closed has no slots. -/
theorem scan_of_unclosed {cs : List Char}
    (h : ∀ before rest, cs = before ++ '$' :: '{' :: rest → '}' ∉ rest) : scan cs = ⟨[], cs⟩ := by
  induction cs with
  | nil => rw [scan]
  | cons c cs ih =>
    by_cases hopen : ['$', '{'] <+: c :: cs
    · obtain ⟨rest, hrest⟩ := hopen
      rw [← hrest]
      exact scan_unclosed (h [] rest hrest.symm)
    · have htail : scan cs = ⟨[], cs⟩ := by
        refine ih ?_
        intro before rest hcs
        exact h (c :: before) rest (by rw [hcs, List.cons_append])
      rw [scan_cons hopen, htail]
      rfl

/-! ### Proper cuts -/

/-- A cut into slots that take all that can be taken, from the left. -/
structure Segmentation.Proper (s : Segmentation) : Prop where
  /-- A slot ends at the first closing brace. -/
  bodies : ∀ slot ∈ s.slots, '}' ∉ slot.body
  /-- No gap before a slot opens a slot. -/
  gaps : ∀ slot ∈ s.slots, Plain slot.gap
  /-- After the last slot no opening is closed. -/
  tail : ∀ before rest, s.tail = before ++ '$' :: '{' :: rest → '}' ∉ rest

/-- Slots with plain gaps are found whatever comes after them, and what comes after them is cut for
itself. -/
theorem scan_source_of_slots {slots : List Slot} (hbodies : ∀ slot ∈ slots, '}' ∉ slot.body)
    (hgaps : ∀ slot ∈ slots, Plain slot.gap) (rest : List Char) :
    scan (Segmentation.source ⟨slots, rest⟩) = ⟨slots ++ (scan rest).slots, (scan rest).tail⟩ := by
  induction slots with
  | nil => rfl
  | cons slot slots ih =>
    have hrest := ih (fun s hs => hbodies s (List.mem_cons_of_mem _ hs))
      fun s hs => hgaps s (List.mem_cons_of_mem _ hs)
    rw [Segmentation.source_cons,
      scan_plain_append (hgaps slot List.mem_cons_self) (seamless_slotSource _ _ _),
      scan_slotSource (hbodies slot List.mem_cons_self), hrest, Segmentation.prepend_cons,
      List.append_nil]
    rfl

/-- A plain text and a slot are one gap and one slot. -/
theorem scan_gap_slot {gap body : List Char} (hgap : Plain gap) (hbody : '}' ∉ body) :
    scan (gap ++ slotSource body) = ⟨[⟨gap, body⟩], []⟩ := by
  have hslot := scan_slotSource hbody []
  have hseam := seamless_slotSource gap body []
  rw [List.append_nil] at hslot hseam
  rw [scan_plain_append hgap hseam, hslot, scan, Segmentation.prepend_cons, List.append_nil]

/-- **A proper cut is the one that is found in its source.** -/
theorem scan_source {s : Segmentation} (h : s.Proper) : scan s.source = s := by
  obtain ⟨slots, tail⟩ := s
  have htail : scan tail = ⟨[], tail⟩ := scan_of_unclosed h.tail
  rw [scan_source_of_slots h.bodies h.gaps, htail, List.append_nil]

/-- A character that begins no opening keeps a cut proper. -/
theorem Segmentation.Proper.push {s : Segmentation} (h : s.Proper) {c : Char}
    (hopen : ¬ ['$', '{'] <+: c :: s.source) : (s.push c).Proper := by
  obtain ⟨slots, tail⟩ := s
  cases slots with
  | nil =>
    refine ⟨by simp [Segmentation.push], by simp [Segmentation.push], ?_⟩
    intro before rest hsplit
    cases before with
    | nil =>
      have hfront : ['$', '{'] <+: c :: tail := ⟨rest, hsplit.symm⟩
      exact absurd hfront hopen
    | cons d before => exact h.tail before rest (List.cons.inj hsplit).2
  | cons slot slots =>
    have hgap : Plain (c :: slot.gap) := by
      intro hinside
      rcases List.infix_cons_iff.mp hinside with hfront | hinside
      · rw [Segmentation.source_cons] at hopen
        exact hopen (hfront.trans (List.prefix_append (c :: slot.gap) _))
      · exact h.gaps slot List.mem_cons_self hinside
    refine ⟨?_, ?_, h.tail⟩
    · intro s hs
      rcases List.mem_cons.mp hs with rfl | hs
      · exact h.bodies slot List.mem_cons_self
      · exact h.bodies s (List.mem_cons_of_mem _ hs)
    · intro s hs
      rcases List.mem_cons.mp hs with rfl | hs
      · exact hgap
      · exact h.gaps s (List.mem_cons_of_mem _ hs)

/-- The cut that is found is proper. -/
theorem proper_scan (cs : List Char) : (scan cs).Proper := by
  fun_induction scan cs with
  | case1 => exact ⟨by simp, by simp, by simp⟩
  | case2 rest body rest' hcut after ih =>
    obtain ⟨-, hbody⟩ := Text.cutAt?_eq_some_iff.mp hcut
    refine ⟨?_, ?_, ih.tail⟩
    · intro slot hslot
      rcases List.mem_cons.mp hslot with rfl | hslot
      · exact hbody
      · exact ih.bodies slot hslot
    · intro slot hslot
      rcases List.mem_cons.mp hslot with rfl | hslot
      · simp [Plain]
      · exact ih.gaps slot hslot
  | case3 rest hcut =>
    have hrest : '}' ∉ rest := Text.cutAt?_eq_none_iff.mp hcut
    refine ⟨by simp, by simp, ?_⟩
    intro before rest' hsplit hmem
    -- a later opening lies within the rest, which has no closing brace
    have hmem' : '}' ∈ '$' :: '{' :: rest := by
      show '}' ∈ (⟨[], '$' :: '{' :: rest⟩ : Segmentation).tail
      rw [hsplit]
      simp [hmem]
    simp at hmem'
    exact hrest hmem'
  | case4 c rest hne ih =>
    have hopen : ¬ ['$', '{'] <+: c :: rest := by
      rintro ⟨rest', hopening⟩
      obtain ⟨rfl, hrest⟩ := List.cons.inj hopening
      exact hne rest' rfl hrest.symm
    exact ih.push (by rw [source_scan]; exact hopen)

/-! ### Filling cuts in a row -/

namespace Segmentation

/-- Slots in two rows are filled one row after the other. -/
theorem fill_append {slots : List Slot} {texts : List (List Char)}
    (h : texts.length = slots.length) (slots' : List Slot) (tail : List Char)
    (texts' : List (List Char)) :
    fill (slots ++ slots') tail (texts ++ texts') =
      fill slots [] texts ++ fill slots' tail texts' := by
  induction slots generalizing texts with
  | nil =>
    rw [List.length_nil, List.length_eq_zero_iff] at h
    subst h
    rfl
  | cons slot slots ih =>
    cases texts with
    | nil => simp at h
    | cons text texts =>
      have hlength : texts.length = slots.length := Nat.succ.inj h
      simp only [List.cons_append, fill, ih hlength, List.append_assoc]

/-- The last gap stands behind the slots. -/
theorem fill_tail {slots : List Slot} {texts : List (List Char)}
    (h : texts.length = slots.length) (tail : List Char) :
    fill slots tail texts = fill slots [] texts ++ tail := by
  have happend := fill_append h [] tail []
  rw [List.append_nil, List.append_nil] at happend
  exact happend

/-- A text in front of a cut stays in front when the cut is filled. -/
theorem fill_prepend (text : List Char) {s : Segmentation} {texts : List (List Char)}
    (h : texts.length = s.slots.length) :
    fill (s.prepend text).slots (s.prepend text).tail texts =
      text ++ fill s.slots s.tail texts := by
  obtain ⟨slots, tail⟩ := s
  cases slots with
  | nil =>
    rw [List.length_nil, List.length_eq_zero_iff] at h
    subst h
    rw [prepend_nil_slots]
    rfl
  | cons slot slots =>
    cases texts with
    | nil => simp at h
    | cons filled texts =>
      rw [prepend_cons]
      simp only [fill, List.append_assoc]

/-- A text in front of a cut leaves the bodies as they are. -/
theorem bodies_prepend (text : List Char) (s : Segmentation) :
    (s.prepend text).slots.map Slot.body = s.slots.map Slot.body := by
  obtain ⟨slots, tail⟩ := s
  cases slots with
  | nil => rw [prepend_nil_slots]
  | cons slot slots =>
    rw [prepend_cons]
    rfl

end Segmentation

/-! ### Templates in a row -/

/-- No slot reaches from the first template into the second one: the first has no opening after its
last slot, and none arises where they meet. -/
structure Joinable (first second : List Char) : Prop where
  tail : Plain (scan first).tail
  seam : Seamless first second

/-- The last gap of a template meets what follows as the template does. -/
theorem Seamless.tail {first second : List Char} (h : Seamless first second) :
    Seamless (scan first).tail second := by
  rintro ⟨hlast, hhead⟩
  refine h ⟨?_, hhead⟩
  have hsplit := Segmentation.source_append ⟨(scan first).slots, []⟩ (scan first).tail
  rw [List.nil_append] at hsplit
  have hfirst : (Segmentation.source ⟨(scan first).slots, []⟩) ++ (scan first).tail = first :=
    hsplit.trans (source_scan first)
  rw [← hfirst, List.getLast?_append, hlast]
  rfl

/-- **Templates that can be joined are cut one after the other: the last gap of the first one goes
in front of the second one.** -/
theorem scan_append {first second : List Char} (h : Joinable first second) :
    scan (first ++ second) =
      ⟨(scan first).slots ++ ((scan second).prepend (scan first).tail).slots,
        ((scan second).prepend (scan first).tail).tail⟩ := by
  have hproper := proper_scan first
  have hjoined : first ++ second =
      Segmentation.source ⟨(scan first).slots, (scan first).tail ++ second⟩ := by
    rw [← Segmentation.source_append, source_scan]
  rw [hjoined, scan_source_of_slots hproper.bodies hproper.gaps,
    scan_plain_append h.tail h.seam.tail]

/-- Templates that can be joined have the slots of both, one after the other. -/
theorem bodies_append {first second : List Char} (h : Joinable first second) :
    (scan (first ++ second)).slots.map Slot.body =
      (scan first).slots.map Slot.body ++ (scan second).slots.map Slot.body := by
  rw [scan_append h, List.map_append, Segmentation.bodies_prepend]

/-- Templates that can be joined are filled one after the other. -/
theorem fill_scan_append {first second : List Char} (h : Joinable first second)
    {texts texts' : List (List Char)} (ht : texts.length = (scan first).slots.length)
    (ht' : texts'.length = (scan second).slots.length) :
    Segmentation.fill (scan (first ++ second)).slots (scan (first ++ second)).tail
        (texts ++ texts') =
      Segmentation.fill (scan first).slots (scan first).tail texts ++
        Segmentation.fill (scan second).slots (scan second).tail texts' := by
  rw [scan_append h, Segmentation.fill_append ht, Segmentation.fill_prepend _ ht',
    Segmentation.fill_tail ht (scan first).tail, List.append_assoc]

end UrlTemplate.Template
