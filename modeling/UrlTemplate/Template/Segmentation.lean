import UrlTemplate.Text.Split

/-!
# Slots in a template

A slot is `$`, an opening brace, a body without closing brace, and the closing brace. Reading a
template from the left, `scan` takes every slot that starts outside the slots before it, so a
template is a sequence of gaps and slots that ends with a gap. `Segmentation.source` puts the pieces
together again: nothing of the template is lost (`source_scan`).
-/

namespace UrlTemplate.Template

/-- A slot with the text between the slot before it and itself. -/
structure Slot where
  gap : List Char
  body : List Char
deriving DecidableEq, Repr

/-- A template cut into slots and the text after the last one. -/
structure Segmentation where
  slots : List Slot
  tail : List Char
deriving DecidableEq, Repr

/-- The text of a slot with a given body. -/
def slotSource (body : List Char) : List Char :=
  '$' :: '{' :: body ++ ['}']

namespace Segmentation

/-- Puts a character in front of the first piece. -/
def push (c : Char) : Segmentation → Segmentation
  | ⟨[], tail⟩ => ⟨[], c :: tail⟩
  | ⟨slot :: slots, tail⟩ => ⟨{ slot with gap := c :: slot.gap } :: slots, tail⟩

/-- The template with every slot replaced by one of the given texts, in order. -/
def fill : (slots : List Slot) → (tail : List Char) → (texts : List (List Char)) → List Char
  | slot :: slots, tail, text :: texts => slot.gap ++ text ++ fill slots tail texts
  | _, tail, _ => tail

/-- The template that was cut. -/
def source (s : Segmentation) : List Char :=
  fill s.slots s.tail (s.slots.map fun slot => slotSource slot.body)

end Segmentation

/-- Cuts a template at its slots. An opening without any closing brace after it is plain text. -/
def scan : List Char → Segmentation
  | [] => ⟨[], []⟩
  | '$' :: '{' :: rest =>
    match _hcut : Text.cutAt? '}' rest with
    | some (body, rest) =>
      let after := scan rest
      ⟨⟨[], body⟩ :: after.slots, after.tail⟩
    | none => ⟨[], '$' :: '{' :: rest⟩
  | c :: rest => (scan rest).push c
  termination_by cs => cs.length
  decreasing_by
    · have := Text.length_of_cutAt? _hcut
      simp only [List.length_cons]
      omega
    · simp

/-- A character in front of the first piece is in front of the template. -/
theorem source_push (c : Char) (s : Segmentation) : (s.push c).source = c :: s.source := by
  obtain ⟨slots, tail⟩ := s
  cases slots <;> simp [Segmentation.push, Segmentation.source, Segmentation.fill]

/-- Gaps and slots concatenate back to the template. -/
theorem source_scan (cs : List Char) : (scan cs).source = cs := by
  fun_induction scan cs with
  | case1 => rfl
  | case2 rest body rest' hcut after ih =>
    obtain ⟨rfl, _⟩ := Text.cutAt?_eq_some_iff.1 hcut
    have ih' : Segmentation.fill after.slots after.tail
        (after.slots.map fun slot => slotSource slot.body) = rest' := ih
    simp only [Segmentation.source, List.map_cons, Segmentation.fill, ih']
    simp [slotSource]
  | case3 rest => rfl
  | case4 c rest hne ih => rw [source_push, ih]

/-- A slot with its place in the template, counted in characters. -/
structure Occurrence where
  start : Nat
  stop : Nat
  source : String
  body : String
deriving DecidableEq, Repr

/-- The places of slots of which the first gap starts at `offset`. -/
def occurrencesFrom (offset : Nat) : List Slot → List Occurrence
  | [] => []
  | slot :: slots =>
    let start := offset + slot.gap.length
    let stop := start + (slotSource slot.body).length
    ⟨start, stop, String.ofList (slotSource slot.body), String.ofList slot.body⟩
      :: occurrencesFrom stop slots

/-- The slots of a template with their places, in order. -/
def occurrences (template : String) : List Occurrence :=
  occurrencesFrom 0 (scan template.toList).slots

end UrlTemplate.Template
