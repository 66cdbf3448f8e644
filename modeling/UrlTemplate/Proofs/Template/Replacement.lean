import UrlTemplate.Proofs.Template.Places

/-!
# Replacing slots by search

Slots can also be replaced by search: `replaceInTurn` takes them in order and replaces the first
occurrence of each in what the replacements before it have left, wherever that may be. It need not
find the slot it is meant for, because a replaced text may form another occurrence with what stands
around it. A text that is not empty, has no dollar sign and does not begin with a brace (`Inert`)
forms none: what stands before the slot then opens no slot (`Plain`, kept by `Plain.append`), so the
slot occurs first in its own place (`replaceFirst_slotSource`), and by induction on the slots all
replacements are made in their places (`replaceAll_source`).

**Theorem** (`replaceInTurn_eq_weave`): replacing by search and putting texts in the places of the
slots are the same for inert texts, also where these texts are what the slots are expanded to.
-/

namespace UrlTemplate

namespace Template

/-! ### Replacing by search -/

/-- Replaces the first occurrence of a text in a buffer. -/
def replaceFirst (old new : List Char) : (buffer : List Char) → List Char
  | [] => []
  | c :: rest =>
    match Text.dropLead? old (c :: rest) with
    | some after => new ++ after
    | none => c :: replaceFirst old new rest

/-- Replaces the first occurrence of each text in turn, in what the replacements before it have
left. -/
def replaceAll (buffer : List Char) (replacements : List (List Char × List Char)) : List Char :=
  replacements.foldl (fun buffer replacement => replaceFirst replacement.1 replacement.2 buffer)
    buffer

/-- Replaces the slots of a template in turn, each where its text occurs first. -/
def replaceInTurn (template : String) (texts : List String) : String :=
  String.ofList (replaceAll template.toList
    (((occurrences template).map (·.source.toList)).zip (texts.map String.toList)))

/-- The text forms no slot with what stands around it. -/
structure Inert (text : List Char) : Prop where
  nonempty : text ≠ []
  dollar : '$' ∉ text
  brace : text.head? ≠ some '{'

instance decidableInert (text : List Char) : Decidable (Inert text) :=
  decidable_of_iff (text ≠ [] ∧ '$' ∉ text ∧ text.head? ≠ some '{')
    ⟨fun h => ⟨h.1, h.2.1, h.2.2⟩, fun h => ⟨h.nonempty, h.dollar, h.brace⟩⟩

variable {text front : List Char}

/-! ### One replacement -/

/-- The first occurrence of a text is replaced: the one that has none at any place before it. -/
theorem replaceFirst_append {old : List Char} (hne : old ≠ []) (new : List Char)
    {before after : List Char}
    (hfirst : ∀ i < before.length, ¬ old <+: (before ++ (old ++ after)).drop i) :
    replaceFirst old new (before ++ (old ++ after)) = before ++ (new ++ after) := by
  induction before with
  | nil =>
    obtain ⟨c, cs, rfl⟩ := List.exists_cons_of_ne_nil hne
    have hlead : Text.dropLead? (c :: cs) (c :: (cs ++ after)) = some after :=
      Text.dropLead?_eq_some_iff.mpr rfl
    rw [List.nil_append, List.nil_append, List.cons_append, replaceFirst, hlead]
  | cons c before ih =>
    have hlead : Text.dropLead? old (c :: (before ++ (old ++ after))) = none := by
      rw [Option.eq_none_iff_forall_ne_some]
      intro rest hrest
      exact hfirst 0 (Nat.succ_pos _) ⟨rest, (Text.dropLead?_eq_some_iff.mp hrest).symm⟩
    have hlater := ih fun i hi => hfirst (i + 1) (Nat.succ_lt_succ hi)
    rw [List.cons_append, replaceFirst, hlead, hlater]
    rfl

/-- The first occurrence of a slot behind a plain text is the slot. -/
theorem replaceFirst_slotSource (h : Plain front) (body new after : List Char) :
    replaceFirst (slotSource body) new (front ++ (slotSource body ++ after)) =
      front ++ (new ++ after) := by
  refine replaceFirst_append (List.cons_ne_nil _ _) new ?_
  rintro i hi ⟨rest, hrest⟩
  -- an occurrence before would be an opening in the plain text
  refine h.not_opensAt body after hi ⟨body ++ ['}'] ++ rest, ?_, by simp⟩
  rw [List.append_assoc]
  exact hrest.symm

/-! ### All replacements -/

/-- An inert text is plain. -/
theorem Inert.plain (h : Inert text) : Plain text :=
  fun hinside => h.dollar (hinside.subset List.mem_cons_self)

/-- An inert text does not end with a dollar sign. -/
theorem Inert.getLast?_ne (h : Inert text) : text.getLast? ≠ some '$' :=
  fun hlast => h.dollar (List.mem_of_getLast? hlast)

/-- **Slots with plain gaps are replaced in their places by inert texts**, behind a plain text that
does not end with a dollar sign. -/
theorem replaceAll_source (hfront : Plain front) (hlast : front.getLast? ≠ some '$')
    {slots : List Slot} (hgaps : ∀ slot ∈ slots, Plain slot.gap) (tail : List Char)
    {texts : List (List Char)} (hlength : texts.length = slots.length)
    (htexts : ∀ text ∈ texts, Inert text) :
    replaceAll (front ++ Segmentation.source ⟨slots, tail⟩)
        ((slots.map fun slot => slotSource slot.body).zip texts) =
      front ++ Segmentation.fill slots tail texts := by
  induction slots generalizing front texts with
  | nil => rfl
  | cons slot slots ih =>
    cases texts with
    | nil => simp at hlength
    | cons text texts =>
      have htext := htexts text List.mem_cons_self
      have hgap : Plain (front ++ slot.gap) :=
        hfront.append (hgaps slot List.mem_cons_self) fun hseam => hlast hseam.1
      have hseam : Seamless (front ++ slot.gap) text := fun hseam => htext.brace hseam.2
      have hdone : (front ++ slot.gap ++ text).getLast? ≠ some '$' := by
        rw [List.getLast?_append_of_ne_nil _ htext.nonempty]
        exact htext.getLast?_ne
      have hrest := ih (hgap.append htext.plain hseam) hdone
        (fun s hs => hgaps s (List.mem_cons_of_mem _ hs)) (Nat.succ.inj hlength)
        fun t ht => htexts t (List.mem_cons_of_mem _ ht)
      have hfirst : replaceFirst (slotSource slot.body) text
          (front ++ Segmentation.source ⟨slot :: slots, tail⟩) =
            front ++ slot.gap ++ text ++ Segmentation.source ⟨slots, tail⟩ := by
        rw [Segmentation.source_cons, ← List.append_assoc, replaceFirst_slotSource hgap,
          ← List.append_assoc]
      rw [List.map_cons, List.zip_cons_cons, replaceAll, List.foldl_cons, hfirst]
      rw [replaceAll] at hrest
      rw [hrest, Segmentation.fill]
      simp only [List.append_assoc]

/-- **For inert texts, replacing the slots of a template in turn, each where its text occurs first,
comes to the same as putting the texts in the places of the slots, and so to what the pieces of an
expansion are spliced to. If the slots are answered with inert texts, the template is answered with
what replacing them in turn gives.** -/
theorem replaceInTurn_eq_weave (template : String) {texts : List String}
    (hlength : texts.length = (occurrences template).length)
    (htexts : ∀ text ∈ texts, Inert text.toList) :
    replaceInTurn template texts = weave (gaps template) texts ∧
    (∀ pieces : List Piece, pieces.map (fun piece => String.ofList piece.text) = texts →
      String.ofList (Expander.splice (scan template.toList) pieces).text =
        replaceInTurn template texts) ∧
    ∀ (s : Service) (scopes : Scopes) (encode : Option Bool) (n : Int), 0 ≤ n →
      ((occurrences template).mapM fun slot =>
        (s.expandWithin slot.source scopes encode n).result) = .ok texts →
      (s.expandWithin template scopes encode n).result = .ok (replaceInTurn template texts) := by
  have hinert : ∀ text ∈ texts.map String.toList, Inert text := by
    intro text htext
    obtain ⟨t, ht, rfl⟩ := List.mem_map.mp htext
    exact htexts t ht
  have hslots : (texts.map String.toList).length = (scan template.toList).slots.length := by
    rw [List.length_map, hlength, length_occurrences]
  have hreplaced : replaceInTurn template texts = replaceSlots template texts := by
    have hplain : Plain [] := by decide
    have hall := replaceAll_source hplain (by decide) (proper_scan template.toList).gaps
      (scan template.toList).tail hslots hinert
    have hsource : Segmentation.source ⟨(scan template.toList).slots,
        (scan template.toList).tail⟩ = template.toList := source_scan template.toList
    rw [hsource, List.nil_append, List.nil_append] at hall
    rw [replaceInTurn, toList_sources_occurrences, hall, replaceSlots]
  refine ⟨hreplaced.trans (weave_gaps template hlength).symm, ?_, ?_⟩
  · intro pieces hpieces
    have htext : pieces.map Piece.text = texts.map String.toList := by
      rw [← hpieces, List.map_map]
      refine List.map_congr_left ?_
      intro piece _
      exact String.toList_ofList.symm
    rw [hreplaced, replaceSlots, ← htext]
    rfl
  · intro s scopes encode n hn hanswers
    rw [s.result_expandWithin_slots template scopes encode hn, hanswers, hreplaced]
    rfl

/-- A slot that occurs twice, behind a dollar sign, gets a text of its own in each place. -/
theorem replaceInTurn_eq_weave_repeated :
    replaceInTurn "$${path}-${path}" ["7", "8"] = weave ["$", "-", ""] ["7", "8"] ∧
    (Service.metered.expandWithin "$${path}-${path}" Service.nestedScopes none 0).result =
      .ok (replaceInTurn "$${path}-${path}" ["7", "7"]) := by
  have hgaps : gaps "$${path}-${path}" = ["$", "-", ""] := by
    decide +kernel
  have hanswers : ((occurrences "$${path}-${path}").mapM fun slot =>
      (Service.metered.expandWithin slot.source Service.nestedScopes none 0).result) =
        .ok ["7", "7"] := by
    cbv
  have hdistinct := replaceInTurn_eq_weave "$${path}-${path}"
    (show ["7", "8"].length = (occurrences "$${path}-${path}").length by decide +kernel) (by decide)
  have hequal := replaceInTurn_eq_weave "$${path}-${path}"
    (show ["7", "7"].length = (occurrences "$${path}-${path}").length by decide +kernel) (by decide)
  rw [← hgaps]
  exact ⟨hdistinct.1, hequal.2.2 _ _ _ _ (by decide) hanswers⟩

/-- An empty text, a dollar sign and a brace in front can each form a slot that is taken for the
next one. -/
example :
    replaceInTurn "$${a}{b}${b}" ["", "B"] = "B${b}" ∧
    replaceInTurn "${a}{b}${b}" ["$", "B"] = "B${b}" ∧
    replaceInTurn "$${a}${b}" ["\x7bb\x7d", "B"] = "B${b}" := by
  decide +kernel

end Template

end UrlTemplate
