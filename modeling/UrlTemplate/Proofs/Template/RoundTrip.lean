import UrlTemplate.Proofs.Template.Segmentation
import UrlTemplate.Template.Placeholder

/-!
# Written templates are read back

A template is written from literal texts and syntax trees of placeholders in turn. A tree carries
the conditions under which it can be written: no part of it holds a mark that ends the part, and
nothing is trimmed off it; blanks may stand around the reference and around each filter. Each level
of marks is read back by its own lemma: filters and arguments between colons
(`CallTree.parse_text`), the name and the suffix of a reference (`ReferenceTree.parse_text`), the
reference and the filters between bars (`PlaceholderTree.parse_body`), and the slots
(`TemplateTree.scan_text`, since a written template is a proper cut).

**Theorem** (`TemplateTree.read_text`): the slots of a written template are read as its trees, and
what stands between the slots is its literals.
-/

namespace UrlTemplate.Template

open Text

/-! ### Syntax trees -/

/-- No character of the text is one of the marks. -/
def Free (marks cs : List Char) : Prop :=
  ∀ c ∈ cs, c ∉ marks

instance decidableFree (marks cs : List Char) : Decidable (Free marks cs) :=
  List.decidableBAll (· ∉ marks) cs

/-- A mark that a text is free of does not occur in it. -/
theorem Free.not_mem {marks cs : List Char} (h : Free marks cs) {mark : Char}
    (hmark : mark ∈ marks) : mark ∉ cs :=
  fun hmem => h mark hmem hmark

/-- Without a suffix there is no mark that ends a reference. -/
theorem free_no_suffix : Free ['|', '}'] "".toList := by
  intro c hc
  cases hc

/-- The text of a filter call: the name and the arguments, with colons between them. -/
def FilterCall.text (call : FilterCall) : String :=
  join ':' (call.name :: call.args)

/-- The text of a reference: the suffix behind the name. -/
def Reference.text (reference : Reference) : String :=
  reference.name ++ reference.suffix

/-- A filter call that can be written. -/
structure CallTree where
  call : FilterCall
  named : call.name ≠ ""
  free : ∀ part ∈ call.name :: call.args, Free [':', '|', '}'] part.toList
  unpadded : Unpadded call.text.toList

/-- A reference that can be written. -/
structure ReferenceTree where
  reference : Reference
  named : reference.name ≠ ""
  unpadded : Unpadded reference.name.toList
  nameFree : Free ['(', '|', '}'] reference.name.toList
  suffix : IsSuffix reference.suffix.toList
  suffixFree : Free ['|', '}'] reference.suffix.toList

/-- Something that is written with blanks around it. -/
structure Padded (α : Type) where
  before : List Char
  content : α
  after : List Char
  blankBefore : Blank before
  blankAfter : Blank after

/-- A placeholder that can be written. -/
structure PlaceholderTree where
  reference : Padded ReferenceTree
  filters : List (Padded CallTree)

/-- A text that opens no slot. -/
structure Literal where
  text : String
  plain : Plain text.toList

/-- The empty text opens no slot. -/
theorem plain_empty : Plain "".toList := by
  decide

/-- Literals and placeholders in turn. -/
structure TemplateTree where
  /-- The placeholders, each with the literal before it. -/
  parts : List (Literal × PlaceholderTree)
  last : Literal

/-- What is written for padded content. -/
def Padded.chars {α : Type} (p : Padded α) (text : α → String) : List Char :=
  p.before ++ (text p.content).toList ++ p.after

/-- What is written between the bars of a placeholder: the reference and the filters. -/
def PlaceholderTree.segments (tree : PlaceholderTree) : List (List Char) :=
  tree.reference.chars (·.reference.text) :: tree.filters.map (Padded.chars · (·.call.text))

/-- The body of the slot that is written for a placeholder. -/
def PlaceholderTree.body (tree : PlaceholderTree) : List Char :=
  joinChars '|' tree.segments

/-- The template that is written. -/
def TemplateTree.text (tree : TemplateTree) : String :=
  String.ofList (tree.parts.flatMap (fun part =>
    part.1.text.toList ++ slotSource part.2.body) ++ tree.last.text.toList)

/-! ### Reading a template -/

/-- Reads a slot: its reference and its filters. -/
def Occurrence.read (slot : Occurrence) :
    Except PlaceholderError (Reference × List FilterCall) := do
  let placeholder ← Placeholder.parse slot.source slot.body
  return (placeholder.reference, ← placeholder.segments.mapM FilterCall.parse)

/-- What stands between the slots of a template from a place on, and after the last one. -/
def gapsFrom (template : List Char) (cursor : Nat) : List Occurrence → List String
  | [] => [String.ofList (template.drop cursor)]
  | slot :: slots =>
    String.ofList ((template.take slot.start).drop cursor) :: gapsFrom template slot.stop slots

/-- What stands between the slots of a template, before the first one and after the last one. -/
def gaps (template : String) : List String :=
  gapsFrom template.toList 0 (occurrences template)

/-! ### Calls and references -/

/-- A written filter call is read back. -/
theorem CallTree.parse_text (tree : CallTree) :
    FilterCall.parse tree.call.text = .ok tree.call := by
  have hparts : splitAt ':' tree.call.text = tree.call.name :: tree.call.args := by
    refine splitAt_join (List.cons_ne_nil _ _) ?_
    intro part hpart
    exact (tree.free part hpart).not_mem (by decide)
  simp only [FilterCall.parse, hparts, tree.named, if_false]

/-- A written filter call ends no segment and no slot. -/
theorem CallTree.free_text (tree : CallTree) : Free ['|', '}'] tree.call.text.toList := by
  intro c hc hmark
  rw [FilterCall.text, join, String.toList_ofList] at hc
  rcases mem_joinChars hc with rfl | ⟨part, hpart, hmem⟩
  · revert hmark
    decide
  · obtain ⟨text, htext, rfl⟩ := List.mem_map.mp hpart
    exact tree.free text htext c hmem (List.mem_cons_of_mem _ hmark)

namespace ReferenceTree

variable (tree : ReferenceTree)

/-- A written reference is its name and its suffix in a row. -/
theorem toList_text :
    tree.reference.text.toList = tree.reference.name.toList ++ tree.reference.suffix.toList :=
  String.toList_append

/-- A written reference is read back. -/
theorem parse_text : Reference.parse tree.reference.text = tree.reference := by
  have hsplit : splitReference tree.reference.text.toList =
      (tree.reference.name.toList, tree.reference.suffix.toList) := by
    rw [toList_text]
    exact splitReference_append (tree.nameFree.not_mem (by decide)) tree.suffix
  rw [Reference.parse, hsplit]
  simp only [String.ofList_toList]

/-- A written reference ends no segment and no slot. -/
theorem free_text : Free ['|', '}'] tree.reference.text.toList := by
  intro c hc hmark
  rw [toList_text] at hc
  rcases List.mem_append.mp hc with hname | hsuffix
  · exact tree.nameFree c hname (List.mem_cons_of_mem _ hmark)
  · exact tree.suffixFree c hsuffix hmark

/-- The name of a written reference has a character. -/
theorem toList_name_ne_nil : tree.reference.name.toList ≠ [] := by
  intro hnil
  exact tree.named (String.toList_inj.mp hnil)

/-- A written reference is not empty. -/
theorem text_ne_empty : tree.reference.text ≠ "" := by
  intro hempty
  have hnil : tree.reference.text.toList = [] := by
    rw [hempty]
    rfl
  rw [toList_text] at hnil
  exact tree.toList_name_ne_nil (List.append_eq_nil_iff.mp hnil).1

/-- Nothing is trimmed off a written reference: a suffix ends with a parenthesis. -/
theorem unpadded_text : Unpadded tree.reference.text.toList := by
  rw [toList_text]
  refine ⟨?_, ?_⟩
  · obtain ⟨c, rest, hname⟩ := List.exists_cons_of_ne_nil tree.toList_name_ne_nil
    have hfirst := tree.unpadded.1
    rw [hname] at hfirst ⊢
    exact hfirst
  · rcases tree.suffix.eq_nil_or_getLast? with hnone | hlast
    · rw [hnone, List.append_nil]
      exact tree.unpadded.2
    · rw [List.getLast?_append, hlast]
      intro c hc
      cases hc
      decide

end ReferenceTree

/-! ### Placeholders -/

/-- Blanks around a text without blanks at its ends are trimmed off. -/
theorem Padded.trim_chars {α : Type} (p : Padded α) {text : α → String}
    (h : Unpadded (text p.content).toList) :
    trim (String.ofList (p.chars text)) = text p.content := by
  rw [trim, String.toList_ofList, chars, stripWhile_padded p.blankBefore p.blankAfter,
    stripWhile_of_unpadded h, String.ofList_toList]

/-- Blanks around a text bring no mark in. -/
theorem Padded.free_chars {α : Type} (p : Padded α) {text : α → String}
    (h : Free ['|', '}'] (text p.content).toList) : Free ['|', '}'] (p.chars text) := by
  intro c hc hmark
  have hnot : isBlank c = false := by
    simp only [List.mem_cons, List.not_mem_nil, or_false] at hmark
    rcases hmark with rfl | rfl <;> rfl
  rw [chars, List.append_assoc] at hc
  rcases List.mem_append.mp hc with hbefore | hc
  · rw [p.blankBefore c hbefore] at hnot
    cases hnot
  · rcases List.mem_append.mp hc with hcontent | hafter
    · exact h c hcontent hmark
    · rw [p.blankAfter c hafter] at hnot
      cases hnot

namespace PlaceholderTree

variable (tree : PlaceholderTree)

/-- No segment of a written placeholder ends itself or the slot. -/
theorem free_segments : ∀ segment ∈ tree.segments, Free ['|', '}'] segment := by
  intro segment hsegment
  rcases List.mem_cons.mp hsegment with rfl | hfilter
  · exact tree.reference.free_chars tree.reference.content.free_text
  · obtain ⟨p, -, rfl⟩ := List.mem_map.mp hfilter
    exact p.free_chars p.content.free_text

/-- A written placeholder does not end its slot. -/
theorem not_mem_body : '}' ∉ tree.body := by
  intro hmem
  rcases mem_joinChars hmem with heq | ⟨segment, hsegment, hmem⟩
  · revert heq
    decide
  · exact (tree.free_segments segment hsegment).not_mem (by decide) hmem

/-- The segments of a written placeholder are found between the bars. -/
theorem splitAt_body : splitAt '|' (String.ofList tree.body) = tree.segments.map String.ofList := by
  have hfree : ∀ segment ∈ tree.segments, '|' ∉ segment := by
    intro segment hsegment
    exact (tree.free_segments segment hsegment).not_mem (by decide)
  have hne : tree.segments ≠ [] := List.cons_ne_nil _ _
  rw [splitAt, String.toList_ofList, body, splitChars_joinChars hne hfree]

/-- A written placeholder is read back, up to its filters. -/
theorem parse_body (source : String) :
    Placeholder.parse source (String.ofList tree.body) =
      .ok ⟨source, tree.reference.content.reference, tree.filters.map (·.content.call.text)⟩ := by
  have hkey : trim (String.ofList (tree.reference.chars (·.reference.text))) =
      tree.reference.content.reference.text :=
    tree.reference.trim_chars tree.reference.content.unpadded_text
  have hfilters : ∀ p ∈ tree.filters,
      trim (String.ofList (p.chars (·.call.text))) = p.content.call.text :=
    fun p _ => p.trim_chars p.content.unpadded
  simp only [Placeholder.parse, splitAt_body, segments, List.map_cons, List.map_map, hkey,
    tree.reference.content.text_ne_empty, if_false, tree.reference.content.parse_text,
    Except.ok.injEq, Placeholder.mk.injEq, true_and]
  exact List.map_congr_left hfilters

/-- A written placeholder is read back. -/
theorem read_slot {slot : Occurrence} (h : slot.body = String.ofList tree.body) :
    slot.read = .ok (tree.reference.content.reference, tree.filters.map (·.content.call)) := by
  have hcalls : (tree.filters.map (·.content.call.text)).mapM FilterCall.parse =
      .ok (tree.filters.map (·.content.call)) := by
    induction tree.filters with
    | nil => rfl
    | cons p ps ih =>
      rw [List.map_cons, List.mapM_cons, p.content.parse_text, ih]
      rfl
  rw [Occurrence.read, h, parse_body]
  simp only [bind, Except.bind, hcalls]
  rfl

end PlaceholderTree

/-! ### Templates -/

/-- The gaps of a cut stand between the places of its slots, behind whatever is in front of it. -/
theorem gapsFrom_occurrencesFrom (front : List Char) (slots : List Slot) (tail : List Char) :
    gapsFrom (front ++ Segmentation.source ⟨slots, tail⟩) front.length
        (occurrencesFrom front.length slots) =
      slots.map (String.ofList ·.gap) ++ [String.ofList tail] := by
  induction slots generalizing front with
  | nil =>
    have hsource : Segmentation.source ⟨[], tail⟩ = tail := rfl
    rw [occurrencesFrom, gapsFrom, hsource, List.drop_left]
    rfl
  | cons slot slots ih =>
    have hgap : ((front ++ Segmentation.source ⟨slot :: slots, tail⟩).take
        (front.length + slot.gap.length)).drop front.length = slot.gap := by
      rw [Segmentation.source_cons, ← List.append_assoc front, ← List.length_append,
        List.take_left, List.drop_left]
    have hrest : front ++ Segmentation.source ⟨slot :: slots, tail⟩ =
        (front ++ slot.gap ++ slotSource slot.body) ++ Segmentation.source ⟨slots, tail⟩ := by
      simp only [Segmentation.source_cons, List.append_assoc]
    have hstop : front.length + slot.gap.length + (slotSource slot.body).length =
        (front ++ slot.gap ++ slotSource slot.body).length := by
      rw [List.length_append, List.length_append]
    simp only [occurrencesFrom, gapsFrom, hgap]
    rw [hrest, hstop, ih, List.map_cons, List.cons_append]

/-- What stands between the slots of a template is the gaps of its cut. -/
theorem gaps_eq (template : String) :
    gaps template = (scan template.toList).slots.map (String.ofList ·.gap) ++
      [String.ofList (scan template.toList).tail] := by
  have hgaps := gapsFrom_occurrencesFrom [] (scan template.toList).slots (scan template.toList).tail
  have hsource : Segmentation.source ⟨(scan template.toList).slots, (scan template.toList).tail⟩ =
      template.toList := source_scan template.toList
  rw [hsource, List.nil_append] at hgaps
  exact hgaps

namespace TemplateTree

variable (tree : TemplateTree)

/-- The cut that is written. -/
def segmentation : Segmentation :=
  ⟨tree.parts.map fun part => ⟨part.1.text.toList, part.2.body⟩, tree.last.text.toList⟩

/-- A written template is the source of its cut. -/
theorem toList_text : tree.text.toList = tree.segmentation.source := by
  rw [text, String.toList_ofList, segmentation]
  induction tree.parts with
  | nil => rfl
  | cons part parts ih =>
    rw [List.flatMap_cons, List.append_assoc, ih, List.map_cons, Segmentation.source_cons,
      List.append_assoc]

/-- A written template is cut properly. -/
theorem proper_segmentation : tree.segmentation.Proper := by
  refine ⟨?_, ?_, ?_⟩
  · intro slot hslot
    obtain ⟨part, -, rfl⟩ := List.mem_map.mp hslot
    exact part.2.not_mem_body
  · intro slot hslot
    obtain ⟨part, -, rfl⟩ := List.mem_map.mp hslot
    exact part.1.plain
  · intro before rest hsplit
    -- the last literal has no opening at all
    have hlast : tree.last.text.toList = before ++ '$' :: '{' :: rest := hsplit
    refine absurd ⟨before, rest, ?_⟩ tree.last.plain
    simp only [hlast, List.append_assoc, List.cons_append, List.nil_append]

/-- A written template is cut as it was written. -/
theorem scan_text : scan tree.text.toList = tree.segmentation := by
  rw [toList_text, scan_source tree.proper_segmentation]

/-- **The slots of a written template are read as the placeholders that were written, and what
stands between them is the literals.** -/
theorem read_text :
    (occurrences tree.text).map Occurrence.read = tree.parts.map (fun part =>
      .ok (part.2.reference.content.reference, part.2.filters.map (·.content.call))) ∧
    gaps tree.text = tree.parts.map (·.1.text) ++ [tree.last.text] := by
  refine ⟨?_, ?_⟩
  · have hread (offset : Nat) (parts : List (Literal × PlaceholderTree)) :
        (occurrencesFrom offset (parts.map fun part => ⟨part.1.text.toList, part.2.body⟩)).map
          Occurrence.read = parts.map fun part =>
            .ok (part.2.reference.content.reference, part.2.filters.map (·.content.call)) := by
      induction parts generalizing offset with
      | nil => rfl
      | cons part parts ih =>
        rw [List.map_cons, occurrencesFrom, List.map_cons, List.map_cons, ih,
          part.2.read_slot rfl]
    rw [occurrences, scan_text]
    exact hread 0 tree.parts
  · have hliterals : tree.segmentation.slots.map (String.ofList ·.gap) =
        tree.parts.map (·.1.text) := by
      rw [segmentation, List.map_map]
      refine List.map_congr_left ?_
      intro part _
      exact String.ofList_toList
    have hlast : String.ofList tree.segmentation.tail = tree.last.text := String.ofList_toList
    rw [gaps_eq, scan_text, hliterals, hlast]

/-- A literal that ends with a dollar sign before a slot, a filter with an empty argument and one
that looks like an opening, and a slot right behind the first one. -/
def openingsTree : TemplateTree where
  parts := [
    (⟨"$", by decide⟩,
      ⟨⟨[' '], ⟨⟨"id", ""⟩, by decide, by decide, by decide, .none, by decide⟩, [' '],
          by decide, by decide⟩,
        [⟨[], ⟨⟨"f", ["", "$\x7b"]⟩, by decide, by decide, by decide +kernel⟩, [],
          by decide, by decide⟩]⟩),
    (⟨"", by decide⟩,
      ⟨⟨[], ⟨⟨"g", "(x)"⟩, by decide, by decide, by decide,
            IsSuffix.arguments (show ')' ∉ ['x'] by decide), by decide⟩, [],
          by decide, by decide⟩, []⟩)]
  last := ⟨"", by decide⟩

/-- These slots are read, with the dollar sign and nothing else between them. -/
theorem read_text_openings :
    (occurrences "$$\x7b id |f::$\x7b\x7d$\x7bg(x)\x7d").map Occurrence.read =
      [.ok (⟨"id", ""⟩, [⟨"f", ["", "$\x7b"]⟩]), .ok (⟨"g", "(x)"⟩, [])] ∧
    gaps "$$\x7b id |f::$\x7b\x7d$\x7bg(x)\x7d" = ["$", "", ""] :=
  openingsTree.read_text

end TemplateTree

end UrlTemplate.Template
