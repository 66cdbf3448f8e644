/-!
# Blank characters and trimming

`isBlank` is the class of characters that trimming removes. `trim` cuts every blank character off
both ends of a text and keeps the middle as it is.
-/

namespace UrlTemplate.Text

/-- Spaces, line and paragraph ends and the four information separators. -/
def isBlank (c : Char) : Bool :=
  let code := c.toNat
  (0x09 ≤ code && code ≤ 0x0D) || (0x1C ≤ code && code ≤ 0x20) || code == 0x85 || code == 0xA0
    || code == 0x1680 || (0x2000 ≤ code && code ≤ 0x200A) || code == 0x2028 || code == 0x2029
    || code == 0x202F || code == 0x205F || code == 0x3000

/-- Removes the longest run of characters in the class `p` from the end. -/
def dropEndWhile (p : Char → Bool) (cs : List Char) : List Char :=
  (cs.reverse.dropWhile p).reverse

/-- Removes the characters in the class `p` from both ends. -/
def stripWhile (p : Char → Bool) (cs : List Char) : List Char :=
  dropEndWhile p (cs.dropWhile p)

/-- The text without the blank characters at its ends. -/
def trim (s : String) : String :=
  String.ofList (stripWhile isBlank s.toList)

/-- The characters of a trimmed text. -/
@[simp] theorem toList_trim (s : String) : (trim s).toList = stripWhile isBlank s.toList := by
  simp [trim]

/-! ### Blanks at the ends -/

/-- No blank stands at either end of the text. -/
def Unpadded (cs : List Char) : Prop :=
  (∀ c ∈ cs.head?, isBlank c = false) ∧ ∀ c ∈ cs.getLast?, isBlank c = false

instance decidableUnpadded (cs : List Char) : Decidable (Unpadded cs) :=
  @instDecidableAnd _ _ (Option.decidableForallMem _) (Option.decidableForallMem _)

/-- The text consists of blanks. -/
def Blank (cs : List Char) : Prop :=
  ∀ c ∈ cs, isBlank c = true

instance decidableBlank (cs : List Char) : Decidable (Blank cs) :=
  List.decidableBAll (isBlank · = true) cs

/-- Nothing consists of blanks. -/
theorem Blank.nil : Blank [] := by
  intro c hc
  cases hc

/-- Nothing is removed from the end of a text whose last character is out of the class. -/
theorem dropEndWhile_of_getLast? {p : Char → Bool} {cs : List Char}
    (h : ∀ c ∈ cs.getLast?, p c = false) : dropEndWhile p cs = cs := by
  have hkept : cs.reverse.dropWhile p = cs.reverse := by
    cases hcs : cs.reverse with
    | nil => rfl
    | cons c rest =>
      have hlast : c ∈ cs.getLast? := by
        rw [List.getLast?_eq_head?_reverse, hcs]
        rfl
      rw [List.dropWhile_cons_of_neg]
      simp [h c hlast]
  rw [dropEndWhile, hkept, List.reverse_reverse]

/-- Nothing is removed from a text without blanks at its ends. -/
theorem stripWhile_of_unpadded {cs : List Char} (h : Unpadded cs) :
    stripWhile isBlank cs = cs := by
  have hkept : cs.dropWhile isBlank = cs := by
    cases cs with
    | nil => rfl
    | cons c rest =>
      rw [List.dropWhile_cons_of_neg]
      simp [h.1 c rfl]
  rw [stripWhile, hkept, dropEndWhile_of_getLast? h.2]

/-- What is removed at the end makes no difference to what is removed from a text in front of it. -/
theorem dropEndWhile_append {p : Char → Bool} {after : List Char} (h : ∀ c ∈ after, p c = true)
    (cs : List Char) : dropEndWhile p (cs ++ after) = dropEndWhile p cs := by
  have hafter : ∀ c ∈ after.reverse, p c = true := fun c hc => h c (List.mem_reverse.mp hc)
  rw [dropEndWhile, List.reverse_append, List.dropWhile_append_of_pos hafter, dropEndWhile]

/-- Characters of the class around a text are removed with those at its ends. -/
theorem stripWhile_padded {p : Char → Bool} {before after : List Char}
    (hbefore : ∀ c ∈ before, p c = true) (hafter : ∀ c ∈ after, p c = true) (cs : List Char) :
    stripWhile p (before ++ cs ++ after) = stripWhile p cs := by
  have hfront : (before ++ cs ++ after).dropWhile p = (cs ++ after).dropWhile p := by
    rw [List.append_assoc, List.dropWhile_append_of_pos hbefore]
  rw [stripWhile, stripWhile, hfront, List.dropWhile_append]
  by_cases hcs : (cs.dropWhile p).isEmpty
  · have hnone : (after ++ []).dropWhile p = [] := List.dropWhile_append_of_pos hafter
    rw [List.append_nil] at hnone
    rw [if_pos hcs, hnone, List.isEmpty_iff.mp hcs]
  · rw [if_neg hcs, dropEndWhile_append hafter]

end UrlTemplate.Text
