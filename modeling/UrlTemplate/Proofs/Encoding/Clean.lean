import Mathlib.Data.List.Forall2
import UrlTemplate.Proofs.Encoding

/-!
# What an encoded value lets through

A text is `Clean` if it consists of unreserved characters and escapes with capital digits.
Everything that is percent-encoded is clean (`clean_percentChars`), a clean start changes nothing
about whether a text is clean (`clean_append_iff`), and neither does a mark at its end
(`clean_append_mark_iff`). So a text of the form `name(args)`, whose arguments are kept word for
word, is encoded as a clean text exactly if its arguments are clean (`clean_encodeText_iff`).

**Theorem** (`encodeValue_clean_iff`): a list becomes clean texts between commas, and any other
value lets reserved characters through in the arguments at its end and nowhere else.
-/

namespace UrlTemplate

open Template Text

/-! ### Clean texts -/

/-- A digit of an escape: a capital one of base sixteen. -/
def isEscapeDigit (c : Char) : Bool :=
  c.isDigit || ('A' ≤ c && c ≤ 'F')

/-- A text of unreserved characters and escapes. -/
inductive Clean : List Char → Prop
  | nil : Clean []
  | kept {c : Char} {rest : List Char} (hc : isUnreserved c = true) (h : Clean rest) :
      Clean (c :: rest)
  | escape {high low : Char} {rest : List Char} (hhigh : isEscapeDigit high = true)
      (hlow : isEscapeDigit low = true) (h : Clean rest) : Clean ('%' :: high :: low :: rest)

variable {as bs cs name args : List Char}

/-- A clean text has no character that needs an escape, but for the one that begins escapes. -/
theorem Clean.isUnreserved_of_mem (h : Clean cs) {c : Char} (hc : c ∈ cs) (hne : c ≠ '%') :
    isUnreserved c = true := by
  have hdigit {d : Char} (hd : isEscapeDigit d = true) : isUnreserved d = true := by
    have halnum : (d.isUpper || d.isLower || d.isDigit) = true := by
      simp only [isEscapeDigit, Bool.or_eq_true, Bool.and_eq_true, decide_eq_true_eq] at hd
      rcases hd with hd | ⟨hmin, hmax⟩
      · simp [hd]
      · have hupper : d.isUpper = true := decide_eq_true ⟨hmin, Char.le_trans hmax (by decide)⟩
        simp [hupper]
    exact Bool.or_eq_true_iff.mpr (.inl halnum)
  induction h with
  | nil => cases hc
  | kept hkept _ ih =>
    rcases List.mem_cons.mp hc with rfl | hc
    · exact hkept
    · exact ih hc
  | escape hhigh hlow _ ih =>
    simp only [List.mem_cons] at hc
    rcases hc with rfl | rfl | rfl | hc
    · exact absurd rfl hne
    · exact hdigit hhigh
    · exact hdigit hlow
    · exact ih hc

/-- An unreserved character in front changes nothing. -/
theorem clean_cons_iff {c : Char} (hc : isUnreserved c = true) : Clean (c :: cs) ↔ Clean cs := by
  constructor
  · intro h
    cases h with
    | kept _ h => exact h
    | escape _ _ _ => exact absurd hc (by decide)
  · exact .kept hc

/-- A clean text in front changes nothing. -/
theorem clean_append_iff (h : Clean as) : Clean (as ++ bs) ↔ Clean bs := by
  induction h with
  | nil => rfl
  | kept hc _ ih => exact (clean_cons_iff hc).trans ih
  | @escape high low rest hhigh hlow _ ih =>
    constructor
    · intro h
      cases h with
      | kept hc _ => exact absurd hc (by decide)
      | escape _ _ h => exact ih.mp h
    · intro h
      exact .escape hhigh hlow (ih.mpr h)

/-- What comes before a mark in a clean text is clean: the mark is no part of an escape. -/
theorem Clean.of_append_mark {mark : Char} (hmark : mark ∈ unreservedMarks)
    (h : Clean (as ++ mark :: bs)) : Clean as := by
  have hmarks : (unreservedMarks.all fun m => m ≠ '%' ∧ isEscapeDigit m = false) = true := by
    decide
  obtain ⟨hpercent, hdigit⟩ := of_decide_eq_true (List.all_eq_true.mp hmarks mark hmark)
  generalize htext : as ++ mark :: bs = text at h
  induction h generalizing as with
  | nil => simp at htext
  | kept hc _ ih =>
    cases as with
    | nil => exact .nil
    | cons a as =>
      obtain ⟨rfl, htail⟩ := List.cons.inj htext
      exact .kept hc (ih htail)
  | escape hhigh hlow _ ih =>
    -- the text before the mark ends in front of the escape, inside it or behind it
    match as, htext with
    | [], htext => exact absurd (List.cons.inj htext).1 hpercent
    | [_], htext =>
      obtain ⟨-, htail⟩ := List.cons.inj htext
      rw [← (List.cons.inj htail).1, hdigit] at hhigh
      cases hhigh
    | [_, _], htext =>
      obtain ⟨-, htail⟩ := List.cons.inj htext
      obtain ⟨-, htail⟩ := List.cons.inj htail
      rw [← (List.cons.inj htail).1, hdigit] at hlow
      cases hlow
    | _ :: _ :: _ :: as, htext =>
      simp only [List.cons_append, List.cons.injEq] at htext
      obtain ⟨rfl, rfl, rfl, htail⟩ := htext
      exact .escape hhigh hlow (ih htail)

/-- Marks are unreserved. -/
theorem isUnreserved_of_mem_marks {mark : Char} (h : mark ∈ unreservedMarks) :
    isUnreserved mark = true := by
  simp [isUnreserved, h]

/-- A mark at the end changes nothing. -/
theorem clean_append_mark_iff {mark : Char} (hmark : mark ∈ unreservedMarks) :
    Clean (as ++ [mark]) ↔ Clean as := by
  constructor
  · exact Clean.of_append_mark hmark
  · intro h
    exact (clean_append_iff h).mpr (.kept (isUnreserved_of_mem_marks hmark) .nil)

/-- The written form of a byte is clean. -/
theorem clean_percentByte (b : UInt8) : Clean (percentByte b) := by
  have hdigit : ∀ n < 16, isEscapeDigit (hexDigitUpper n) = true := by decide
  have hlt : b.toNat < 256 := b.toNat_lt
  unfold percentByte
  by_cases hkept : isUnreserved (Char.ofNat b.toNat) = true
  · simp only [hkept, if_true]
    exact .kept hkept .nil
  · simp only [hkept, Bool.false_eq_true, if_false]
    exact .escape (hdigit _ (by omega)) (hdigit _ (by omega)) .nil

/-- An encoded text is clean. -/
theorem clean_percentChars (cs : List Char) : Clean (percentChars cs) := by
  unfold percentChars
  induction cs.flatMap String.utf8EncodeChar with
  | nil => exact .nil
  | cons b bs ih =>
    rw [List.flatMap_cons]
    exact (clean_append_iff (clean_percentByte b)).mpr ih

/-! ### Texts with arguments at their end -/

/-- A text has the form `name(args)`. -/
def IsCall (cs name args : List Char) : Prop :=
  cs = name ++ '(' :: args ++ [')'] ∧ '(' ∉ name ∧ ')' ∉ args

/-- The name of a call is encoded, and its arguments are kept. -/
theorem IsCall.encodeText_eq (h : IsCall cs name args) :
    encodeText cs = percentChars name ++ '(' :: args ++ [')'] := by
  obtain ⟨rfl, hname, hargs⟩ := h
  rw [List.append_assoc, encodeText_append hname (.arguments hargs), ← List.append_assoc]

/-- A text is a call in one way at most. -/
theorem IsCall.unique {name' args' : List Char} (h : IsCall cs name args)
    (h' : IsCall cs name' args') : name = name' ∧ args = args' := by
  obtain ⟨rfl, hname, hargs⟩ := h
  obtain ⟨heq, hname', hargs'⟩ := h'
  have hsplit := splitReference_append hname (.arguments hargs)
  rw [← List.append_assoc, heq, List.append_assoc,
    splitReference_append hname' (.arguments hargs'), Prod.mk.injEq] at hsplit
  obtain ⟨rfl, hsuffix⟩ := hsplit
  exact ⟨rfl, (List.append_cancel_right (List.cons.inj hsuffix).2).symm⟩

/-- Any other text is encoded as a whole. -/
theorem encodeText_of_not_isCall (h : ∀ name args, ¬ IsCall cs name args) :
    encodeText cs = percentChars cs := by
  by_cases href : NoReference cs
  · exact encodeText_of_noReference href
  · obtain ⟨name, suffix, hname, hsuffix, rfl⟩ :
        ∃ name suffix, '(' ∉ name ∧ IsSuffix suffix ∧ cs = name ++ suffix := by
      simpa only [NoReference, not_forall, exists_prop, ne_eq, not_not] using href
    cases hsuffix with
    | none => rw [encodeText_append hname .none, List.append_nil, List.append_nil]
    | arguments hargs => exact absurd ⟨(List.append_assoc _ _ _).symm, hname, hargs⟩ (h name _)

/-- A call is encoded as a clean text exactly if its arguments are clean. -/
theorem IsCall.clean_encodeText_iff (h : IsCall cs name args) :
    Clean (encodeText cs) ↔ Clean args := by
  rw [h.encodeText_eq, List.append_assoc, clean_append_iff (clean_percentChars name),
    List.cons_append, clean_cons_iff (by decide), clean_append_mark_iff (by decide)]

/-- **A text is encoded as a clean text unless it is a call whose arguments are not clean.** -/
theorem clean_encodeText_iff :
    Clean (encodeText cs) ↔ ¬ ∃ name args, IsCall cs name args ∧ ¬ Clean args := by
  by_cases hcall : ∃ name args, IsCall cs name args
  · obtain ⟨name, args, hcall⟩ := hcall
    rw [hcall.clean_encodeText_iff]
    constructor
    · rintro hclean ⟨name', args', hcall', hdirty⟩
      obtain ⟨-, rfl⟩ := hcall.unique hcall'
      exact hdirty hclean
    · intro hnone
      by_contra hdirty
      exact hnone ⟨name, args, hcall, hdirty⟩
  · have hwhole : ∀ name args, ¬ IsCall cs name args := fun name args h => hcall ⟨name, args, h⟩
    rw [encodeText_of_not_isCall hwhole]
    exact iff_of_true (clean_percentChars cs) fun ⟨name, args, h, _⟩ => hwhole name args h

/-- An encoded text is a clean text in front of the arguments that are kept, if there are any. -/
theorem exists_encodeText_eq (cs : List Char) :
    ∃ front suffix, encodeText cs = front ++ suffix ∧ Clean front ∧
      (suffix = [] ∨ ∃ name args, IsCall cs name args ∧ front = percentChars name ∧
        suffix = '(' :: args ++ [')']) := by
  by_cases hcall : ∃ name args, IsCall cs name args
  · obtain ⟨name, args, hcall⟩ := hcall
    refine ⟨percentChars name, '(' :: args ++ [')'], ?_, clean_percentChars name,
      .inr ⟨name, args, hcall, rfl, rfl⟩⟩
    rw [hcall.encodeText_eq, List.append_assoc]
  · have hwhole : ∀ name args, ¬ IsCall cs name args := fun name args h => hcall ⟨name, args, h⟩
    refine ⟨percentChars cs, [], ?_, clean_percentChars cs, .inl rfl⟩
    rw [encodeText_of_not_isCall hwhole, List.append_nil]

/-! ### Values -/

/-- A value that does not count as present is encoded as nothing. -/
theorem encodeValue_of_not_truthy {v : Value} (h : v.truthy = false) : encodeValue v = "" := by
  unfold encodeValue
  rw [h]
  rfl

/-- The items of a list become clean texts between commas, one for each. -/
theorem exists_encodeValue_list (items : List Value) :
    ∃ parts, (encodeValue (.list items)).toList = joinChars ',' parts ∧
      List.Forall₂ (fun item part => Clean part ∧ percentDecodeChars? part = some item.textChars)
        items parts := by
  refine ⟨items.map fun item => percentChars item.textChars, ?_, ?_⟩
  · cases items with
    | nil => rfl
    | cons item rest =>
      unfold encodeValue
      simp only [Value.truthy, List.isEmpty_cons, Bool.not_false, Bool.not_true,
        Bool.false_eq_true, if_false, String.toList_ofList, encodeItems]
  · rw [List.forall₂_map_right_iff, List.forall₂_same]
    intro item _
    exact ⟨clean_percentChars _, percentDecodeChars?_percentChars _⟩

/-- **A list is encoded as clean texts between commas, one for each item. Any other value is encoded
as a clean text unless its text has the form `name(args)` with arguments that are not clean, and a
value that does not count as present always is. Reserved characters come through in the arguments at
the end only; what stands before them is clean.** -/
theorem encodeValue_clean_iff :
    (∀ items : List Value, ∃ parts,
      (encodeValue (.list items)).toList = joinChars ',' parts ∧
      List.Forall₂ (fun item part => Clean part ∧ percentDecodeChars? part = some item.textChars)
        items parts) ∧
    ∀ v : Value, (∀ items, v ≠ .list items) →
      (Clean (encodeValue v).toList ↔
        v.truthy = false ∨ ¬ ∃ name args, IsCall v.text.toList name args ∧ ¬ Clean args) ∧
      ∃ front suffix, (encodeValue v).toList = front ++ suffix ∧ Clean front ∧
        (suffix = [] ∨ ∃ name args, IsCall v.text.toList name args ∧
          front = percentChars name ∧ suffix = '(' :: args ++ [')']) ∧
        ∀ c ∈ (encodeValue v).toList, isUnreserved c = false → c ≠ '%' → c ∈ suffix := by
  refine ⟨exists_encodeValue_list, ?_⟩
  intro v hv
  rcases htruthy : v.truthy with _ | _
  · rw [encodeValue_of_not_truthy htruthy]
    exact ⟨iff_of_true .nil (.inl rfl), [], [], rfl, .nil, .inl rfl, by simp⟩
  · rw [toList_encodeValue htruthy hv, Value.toList_text]
    refine ⟨clean_encodeText_iff.trans (by simp), ?_⟩
    obtain ⟨front, suffix, heq, hclean, hsuffix⟩ := exists_encodeText_eq v.textChars
    refine ⟨front, suffix, heq, hclean, hsuffix, ?_⟩
    intro c hc hreserved hne
    rw [heq] at hc
    rcases List.mem_append.mp hc with hfront | hc
    · rw [hclean.isUnreserved_of_mem hfront hne] at hreserved
      cases hreserved
    · exact hc

/-- An ampersand in a name is escaped; in arguments at the end it comes through, unless a text
follows them. -/
theorem encodeValue_clean_iff_arguments :
    ¬ Clean (encodeValue (.str "a&b(c&d)")).toList ∧
    Clean (encodeValue (.str "a&b(c&d)e")).toList ∧
    encodeValue (.str "a&b(c&d)") = "a%26b(c&d)" := by
  obtain ⟨-, hvalue⟩ := encodeValue_clean_iff
  obtain ⟨hcall, -⟩ := hvalue (.str "a&b(c&d)") (by simp)
  obtain ⟨hplain, -⟩ := hvalue (.str "a&b(c&d)e") (by simp)
  refine ⟨?_, hplain.mpr (.inr ?_), by decide +kernel⟩
  · rw [hcall]
    rintro (hfalse | hnone)
    · exact absurd hfalse (by decide)
    · refine hnone ⟨['a', '&', 'b'], ['c', '&', 'd'], ⟨by simp, by decide, by decide⟩, ?_⟩
      intro hclean
      exact absurd (hclean.isUnreserved_of_mem (c := '&') (by decide) (by decide)) (by decide)
  · rintro ⟨name, args, ⟨htext, -, -⟩, -⟩
    have hlast := congrArg List.getLast? htext
    rw [List.getLast?_concat, Value.text_str] at hlast
    exact absurd hlast (by decide)

end UrlTemplate
