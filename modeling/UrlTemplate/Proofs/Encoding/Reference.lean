import UrlTemplate.Proofs.Encoding
import UrlTemplate.Proofs.Template.Pattern

/-!
# References in texts and in what they are encoded as

A reference is described by two patterns in a row, one for its name and one for its suffix, which
may be missing. Every text is divided into a name, a suffix and a rest (`Template.Divided`), and the
first way in which the two patterns match its start divides it so
(`Template.Divided.head?_referenceWays`). Encoding asks for a way that takes all of the text, and
there the order does not matter: the name and the suffix of such a way are those that reading finds
(`Template.find?_referenceWays`).

**Theorem** (`encodeValue_eq_of_reference`): what reading finds, and that encoding keeps the suffix
exactly if name and suffix are the whole text.
-/

namespace UrlTemplate

open Template Text

namespace Template

/-! ### The pattern of a reference -/

/-- The name of a reference: anything in front of a parenthesis. -/
def namePattern : Pattern :=
  .run (· ≠ '(')

/-- The suffix of a reference: anything in parentheses, or nothing. -/
def suffixPattern : Pattern :=
  .optional (.seq (.mark '(') (.seq (.run (· ≠ ')')) (.mark ')')))

/-- The ways to read the start of a text as a name and a suffix, each with the text behind it, in
the order in which they are tried. -/
def referenceWays (cs : List Char) : List ((List Char × List Char) × List Char) :=
  (namePattern.ways cs).flatMap fun name =>
    (suffixPattern.ways name.2).map (Prod.map (Prod.mk name.1) id)

variable {cs name suffix rest : List Char}

/-- A name is a text without an opening parenthesis. -/
theorem matches_namePattern_iff : namePattern.Matches name ↔ '(' ∉ name := by
  simp only [namePattern, Pattern.Matches, decide_eq_true_eq, ne_eq, List.forall_mem_ne']

/-- The pattern of a suffix matches suffixes and nothing else. -/
theorem matches_suffixPattern_iff : suffixPattern.Matches suffix ↔ IsSuffix suffix := by
  simp only [suffixPattern, Pattern.Matches, decide_eq_true_eq, ne_eq, List.forall_mem_ne']
  constructor
  · rintro (rfl | ⟨_, _, rfl, ⟨args, _, hargs, rfl, rfl⟩, rfl⟩)
    · exact .none
    · exact .arguments hargs
  · rintro (_ | h)
    · exact .inl rfl
    · exact .inr ⟨['('], _, rfl, ⟨_, [')'], h, rfl, rfl⟩, rfl⟩

/-- The ways to read a reference are the names and suffixes in a row at the start of the text. -/
theorem mem_referenceWays_iff :
    ((name, suffix), rest) ∈ referenceWays cs ↔
      ('(' ∉ name ∧ IsSuffix suffix) ∧ name ++ suffix ++ rest = cs := by
  simp only [referenceWays, List.mem_flatMap, List.mem_map, Prod.exists, Prod.map_apply, id,
    Prod.mk.injEq, ← matches_namePattern_iff, ← matches_suffixPattern_iff]
  constructor
  · rintro ⟨_, behind, hname, _, _, hsuffix, ⟨rfl, rfl⟩, rfl⟩
    obtain ⟨hname', rfl⟩ := Pattern.mem_ways_iff.mp hname
    obtain ⟨hsuffix', rfl⟩ := Pattern.mem_ways_iff.mp hsuffix
    exact ⟨⟨hname', hsuffix'⟩, List.append_assoc _ _ _⟩
  · rintro ⟨⟨hname, hsuffix⟩, rfl⟩
    exact ⟨name, suffix ++ rest, Pattern.mem_ways_iff.mpr ⟨hname, (List.append_assoc _ _ _).symm⟩,
      suffix, rest, Pattern.mem_ways_iff.mpr ⟨hsuffix, rfl⟩, ⟨rfl, rfl⟩, rfl⟩

/-! ### Dividing a text -/

/-- A text, the name and the suffix in it, and the rest: a name alone, a name with a parenthesis
that is never closed, or a name with a suffix. -/
inductive Divided : (cs name suffix rest : List Char) → Prop
  | name {name : List Char} (hname : '(' ∉ name) : Divided name name [] []
  | unclosed {name after : List Char} (hname : '(' ∉ name) (hafter : ')' ∉ after) :
      Divided (name ++ '(' :: after) name [] ('(' :: after)
  | closed {name args rest : List Char} (hname : '(' ∉ name) (hargs : ')' ∉ args) :
      Divided (name ++ '(' :: (args ++ ')' :: rest)) name ('(' :: (args ++ [')'])) rest

/-- Every text is divided. -/
theorem exists_divided (cs : List Char) : ∃ name suffix rest, Divided cs name suffix rest := by
  cases hopen : cutAt? '(' cs with
  | none => exact ⟨_, _, _, .name (cutAt?_eq_none_iff.mp hopen)⟩
  | some cut =>
    obtain ⟨name, after⟩ := cut
    obtain ⟨rfl, hname⟩ := cutAt?_eq_some_iff.mp hopen
    cases hclose : cutAt? ')' after with
    | none => exact ⟨_, _, _, .unclosed hname (cutAt?_eq_none_iff.mp hclose)⟩
    | some cut =>
      obtain ⟨args, rest⟩ := cut
      obtain ⟨rfl, hargs⟩ := cutAt?_eq_some_iff.mp hclose
      exact ⟨_, _, _, .closed hname hargs⟩

namespace Divided

/-- Reading a text divides it. -/
theorem splitReference_eq (h : Divided cs name suffix rest) :
    splitReference cs = (name, suffix) := by
  cases h with
  | name hname => rw [splitReference, cutAt?_eq_none_iff.mpr hname]
  | unclosed hname hafter =>
    rw [splitReference, cutAt?_eq_some_iff.mpr ⟨rfl, hname⟩]
    simp only [cutAt?_eq_none_iff.mpr hafter]
  | closed hname hargs =>
    rw [splitReference, cutAt?_eq_some_iff.mpr ⟨rfl, hname⟩]
    simp only [cutAt?_eq_some_iff.mpr ⟨rfl, hargs⟩, List.cons_append]

/-- A text that is divided is the parts in a row. -/
theorem append_eq (h : Divided cs name suffix rest) : name ++ suffix ++ rest = cs := by
  cases h with
  | name => simp
  | unclosed => simp
  | closed => simp

/-- The name is the longest start without an opening parenthesis. -/
theorem prefix_name (h : Divided cs name suffix rest) {front : List Char} (hfront : front <+: cs)
    (hopen : '(' ∉ front) : front <+: name := by
  have hstop : cs = name ∨ ∃ after, cs = name ++ '(' :: after := by
    cases h with
    | name => exact .inl rfl
    | unclosed => exact .inr ⟨_, rfl⟩
    | closed => exact .inr ⟨_, rfl⟩
  rcases hstop with rfl | ⟨after, rfl⟩
  · exact hfront
  · rcases List.prefix_or_prefix_of_prefix hfront (List.prefix_append name _) with h | ⟨more, rfl⟩
    · exact h
    · -- a longer start would go on with the parenthesis
      rw [List.prefix_append_right_inj] at hfront
      cases more with
      | nil => simp
      | cons c more =>
        obtain ⟨rfl, -⟩ := List.cons_prefix_cons.mp hfront
        exact absurd (by simp) hopen

/-- The suffix closes if a closing parenthesis follows the opening one. -/
theorem suffix_of_mem (h : Divided cs name suffix rest) {after : List Char}
    (hcs : cs = name ++ '(' :: after) (hclose : ')' ∈ after) :
    ∃ args, ')' ∉ args ∧ suffix = '(' :: (args ++ [')']) := by
  cases h with
  | name hname => simp at hcs
  | unclosed _ hafter =>
    obtain rfl : _ = after := by simpa using hcs
    exact absurd hclose hafter
  | closed _ hargs => exact ⟨_, hargs, rfl⟩

/-- There is no suffix if no closing parenthesis follows the opening one, or if there is none. -/
theorem suffix_eq_nil (h : Divided cs name suffix rest)
    (hclose : ∀ after, cs = name ++ '(' :: after → ')' ∉ after) : suffix = [] := by
  cases h with
  | name => rfl
  | unclosed => rfl
  | closed => exact absurd (by simp) (hclose _ rfl)

end Divided

/-! ### The first way -/

/-- Behind an opening parenthesis a suffix reaches to the first closing one, if there is any. -/
theorem ways_suffixPattern_cons (after : List Char) :
    suffixPattern.ways ('(' :: after) =
      ((cutAt? ')' after).toList.map fun cut => ('(' :: (cut.1 ++ [')']), cut.2)) ++
        [([], '(' :: after)] := by
  have hmark : (Pattern.mark '(').ways ('(' :: after) = [(['('], after)] := rfl
  unfold suffixPattern
  rw [Pattern.ways, Pattern.ways, hmark, List.flatMap_singleton, Pattern.ways_upTo, List.map_map]
  rfl

/-- The first way has the first name, and the first suffix behind that. -/
theorem head?_referenceWays_of_head? {behind : List Char}
    (hname : (namePattern.ways cs).head? = some (name, behind))
    (hsuffix : (suffixPattern.ways behind).head? = some (suffix, rest)) :
    (referenceWays cs).head? = some ((name, suffix), rest) := by
  obtain ⟨others, hname⟩ := List.head?_eq_some_iff.mp hname
  rw [referenceWays, hname, List.flatMap_cons, List.head?_append, List.head?_map, hsuffix]
  rfl

/-- The first name reaches to the first opening parenthesis, or to the end. -/
theorem head?_ways_namePattern (hname : '(' ∉ name) (hrest : ∀ c ∈ rest.head?, c = '(') :
    (namePattern.ways (name ++ rest)).head? = some (name, rest) := by
  have hclass : ∀ c ∈ name, decide (c ≠ '(') = true :=
    fun c hc => decide_eq_true fun heq => hname (heq ▸ hc)
  have hstop : rest.takeWhile (· ≠ '(') = [] ∧ rest.dropWhile (· ≠ '(') = rest := by
    cases rest with
    | nil => exact ⟨rfl, rfl⟩
    | cons c rest =>
      obtain rfl := hrest c rfl
      exact ⟨rfl, rfl⟩
  rw [namePattern, Pattern.ways, Pattern.head?_runs, List.takeWhile_append_of_pos hclass,
    List.dropWhile_append_of_pos hclass, hstop.1, hstop.2, List.append_nil]

/-- The first way to read a reference divides the text. -/
theorem Divided.head?_referenceWays (h : Divided cs name suffix rest) :
    (referenceWays cs).head? = some ((name, suffix), rest) := by
  cases h with
  | name hname =>
    have hend : ∀ c ∈ ([] : List Char).head?, c = '(' := by simp
    have hfirst := head?_ways_namePattern hname hend
    rw [List.append_nil] at hfirst
    exact head?_referenceWays_of_head? hfirst rfl
  | @unclosed _ after hname hafter =>
    refine head?_referenceWays_of_head? (head?_ways_namePattern hname (by simp)) ?_
    rw [ways_suffixPattern_cons, cutAt?_eq_none_iff.mpr hafter]
    rfl
  | closed hname hargs =>
    refine head?_referenceWays_of_head? (head?_ways_namePattern hname (by simp)) ?_
    rw [ways_suffixPattern_cons, cutAt?_eq_some_iff.mpr ⟨rfl, hargs⟩]
    rfl

/-- **A text can be taken as a whole in the way in which it is read, or not at all.** -/
theorem find?_referenceWays (cs : List Char) :
    ((referenceWays cs).find? (·.2.isEmpty)).map Prod.fst =
      if (splitReference cs).1 ++ (splitReference cs).2 = cs then some (splitReference cs)
      else none := by
  cases hfind : (referenceWays cs).find? (·.2.isEmpty) with
  | none =>
    have hnone := List.find?_eq_none.mp hfind
    refine (if_neg fun heq => ?_).symm
    have hway : (splitReference cs, []) ∈ referenceWays cs :=
      mem_referenceWays_iff.mpr ⟨splitReference_spec cs, (List.append_nil _).trans heq⟩
    exact hnone _ hway rfl
  | some way =>
    obtain ⟨⟨name, suffix⟩, rest⟩ := way
    have hempty := List.find?_some hfind
    have hrest : rest = [] := List.isEmpty_iff.mp hempty
    obtain ⟨⟨hname, hsuffix⟩, heq⟩ := mem_referenceWays_iff.mp (List.mem_of_find?_eq_some hfind)
    rw [hrest, List.append_nil] at heq
    rw [← heq, splitReference_append hname hsuffix, if_pos rfl]
    rfl

end Template

/-! ### Reading and encoding -/

/-- A text is encoded as a name and a suffix if there is a way to take it as such as a whole. -/
theorem encodeText_eq_elim (cs : List Char) :
    encodeText cs = ((referenceWays cs).find? (·.2.isEmpty)).elim (percentChars cs)
      fun way => percentChars way.1.1 ++ way.1.2 := by
  have hfind := find?_referenceWays cs
  unfold encodeText
  by_cases heq : (splitReference cs).1 ++ (splitReference cs).2 = cs
  · rw [if_pos heq, Option.map_eq_some_iff] at hfind
    obtain ⟨way, hway, hsplit⟩ := hfind
    rw [hway, Option.elim_some, hsplit]
    exact if_pos heq
  · rw [if_neg heq, Option.map_eq_none_iff] at hfind
    rw [hfind, Option.elim_none]
    exact if_neg heq

/-- **Reading and encoding agree on what is name and what is suffix.** Reading a text as a reference
is the first way to do so that backtracking finds, and there always is one: it splits the text into
name, suffix and a rest. The name is the longest start without an opening parenthesis. The suffix is
there if a closing parenthesis follows the first opening one, and then it reaches to the first such;
otherwise it is empty. Encoding looks for a way that takes all of the text; it finds that of
reading, if name and suffix are the whole text, and keeps that suffix. Otherwise there is none, and
the text is encoded as a whole. -/
theorem encodeValue_eq_of_reference (text : String) :
    let r := Reference.parse text
    (∃ rest, (referenceWays text.toList).head? = some ((r.name.toList, r.suffix.toList), rest) ∧
      text = r.name ++ r.suffix ++ String.ofList rest) ∧
    ('(' ∉ r.name.toList ∧
      ∀ front, front <+: text.toList → '(' ∉ front → front <+: r.name.toList) ∧
    (∀ after, text.toList = r.name.toList ++ '(' :: after → ')' ∈ after →
      ∃ args, ')' ∉ args ∧ r.suffix.toList = '(' :: (args ++ [')'])) ∧
    ((∀ after, text.toList = r.name.toList ++ '(' :: after → ')' ∉ after) → r.suffix = "") ∧
    ((encodeValue (.str text)).toList =
      ((referenceWays text.toList).find? (·.2.isEmpty)).elim (percentChars text.toList)
        fun way => percentChars way.1.1 ++ way.1.2) ∧
    encodeValue (.str text) =
      if r.name ++ r.suffix = text then percentEncode r.name ++ r.suffix
      else percentEncode text := by
  intro r
  obtain ⟨name, suffix, rest, hdivided⟩ := exists_divided text.toList
  have hr : r = ⟨String.ofList name, String.ofList suffix⟩ := by
    simp only [r, Reference.parse, hdivided.splitReference_eq]
  have hname : r.name.toList = name := by rw [hr, String.toList_ofList]
  have hsuffix : r.suffix.toList = suffix := by rw [hr, String.toList_ofList]
  rw [← hname, ← hsuffix] at hdivided
  have hopen := (splitReference_spec text.toList).1
  rw [hdivided.splitReference_eq] at hopen
  refine ⟨⟨rest, hdivided.head?_referenceWays, ?_⟩, ⟨hopen, fun _ => hdivided.prefix_name⟩,
    fun _ => hdivided.suffix_of_mem, fun hclose => ?_, ?_, ?_⟩
  · rw [← String.toList_inj, String.toList_append, String.toList_append, String.toList_ofList,
      hdivided.append_eq]
  · exact String.toList_inj.mp (hdivided.suffix_eq_nil hclose)
  · rw [toList_encodeValue_str, encodeText_eq_elim]
  · rw [← String.toList_inj, toList_encodeValue_str, encodeText, hdivided.splitReference_eq]
    simp only [← String.toList_append, String.toList_inj]
    split
    · simp only [percentEncode, String.toList_append, String.toList_ofList]
    · rw [percentEncode, String.toList_ofList]

/-- Arguments at the end of a text are kept, arguments in front of other text are encoded, and a
parenthesis that is never closed begins none. -/
theorem encodeValue_eq_of_reference_parentheses :
    encodeValue (.str "a b(c d)") = "a%20b(c d)" ∧
    encodeValue (.str "a b(c d)e") = "a%20b(c%20d)e" ∧
    (∃ args, ')' ∉ args ∧
      (Reference.parse "a b(c d)e").suffix.toList = '(' :: (args ++ [')'])) ∧
    (Reference.parse "a b(c d").suffix = "" := by
  obtain ⟨-, -, -, -, -, hwhole⟩ := encodeValue_eq_of_reference "a b(c d)"
  obtain ⟨-, -, hclosed, -, -, hpart⟩ := encodeValue_eq_of_reference "a b(c d)e"
  obtain ⟨-, -, -, hunclosed, -, -⟩ := encodeValue_eq_of_reference "a b(c d"
  refine ⟨hwhole.trans (by decide +kernel), hpart.trans (by decide +kernel),
    hclosed "c d)e".toList (by decide +kernel) (by decide), hunclosed fun after hafter => ?_⟩
  have htext : "a b(c d".toList = "a b".toList ++ '(' :: "c d".toList := by decide +kernel
  have hname : (Reference.parse "a b(c d").name.toList = "a b".toList := by decide +kernel
  rw [htext, hname, List.append_cancel_left_eq] at hafter
  rw [← (List.cons.inj hafter).2]
  decide

end UrlTemplate
