import UrlTemplate.Text.Split

/-!
# Patterns, and the order in which they are tried

A small language of patterns: a run of characters of a class, a mark, two patterns in a row, and a
pattern that may be left out. `Pattern.Matches` says what a pattern matches as a whole.
`Pattern.ways` lists the ways in which it matches the start of a text, in the order in which a
matcher that backtracks tries them: a run is as long as possible at first, and leaving out comes
last.

**Theorem** (`Pattern.mem_ways_iff`): the list holds what the pattern matches and nothing else. What
comes first in it is settled where a search needs it: a run begins with the longest one
(`Pattern.head?_runs`), and a run up to a mark that it cannot pass ends there or nowhere
(`Pattern.ways_upTo`).
-/

namespace UrlTemplate.Template

open Text

/-- A pattern for texts. -/
inductive Pattern
  /-- Any number of characters of a class. -/
  | run (p : Char → Bool)
  | mark (c : Char)
  | seq (first second : Pattern)
  /-- What the pattern matches, or nothing. -/
  | optional (inner : Pattern)

namespace Pattern

/-- A pattern matches a text as a whole. -/
def Matches : Pattern → List Char → Prop
  | .run p, cs => ∀ c ∈ cs, p c = true
  | .mark c, cs => cs = [c]
  | .seq first second, cs => ∃ as bs, first.Matches as ∧ second.Matches bs ∧ cs = as ++ bs
  | .optional inner, cs => cs = [] ∨ inner.Matches cs

/-- The starts of a text that have characters of a class only, the longest first, each with the text
behind it. -/
def runs (p : Char → Bool) : List Char → List (List Char × List Char)
  | [] => [([], [])]
  | c :: cs => (if p c then (runs p cs).map (Prod.map (c :: ·) id) else []) ++ [([], c :: cs)]

/-- The starts of a text that a pattern matches, each with the text behind it, in the order in which
they are tried. -/
def ways : Pattern → List Char → List (List Char × List Char)
  | .run p, cs => runs p cs
  | .mark c, cs => (dropLead? [c] cs).toList.map fun rest => ([c], rest)
  | .seq first second, cs =>
    (first.ways cs).flatMap fun way => (second.ways way.2).map (Prod.map (way.1 ++ ·) id)
  | .optional inner, cs => inner.ways cs ++ [([], cs)]

variable {taken rest cs : List Char}

/-! ### What is matched -/

/-- A run is taken from the start of the text and has characters of the class only. -/
theorem mem_runs_iff {p : Char → Bool} :
    (taken, rest) ∈ runs p cs ↔ (∀ c ∈ taken, p c = true) ∧ taken ++ rest = cs := by
  induction cs generalizing taken with
  | nil =>
    simp only [runs, List.mem_singleton, Prod.mk.injEq, List.append_eq_nil_iff]
    refine ⟨?_, And.right⟩
    rintro ⟨rfl, hrest⟩
    exact ⟨by simp, rfl, hrest⟩
  | cons c cs ih =>
    rw [runs, List.mem_append, List.mem_singleton, Prod.mk.injEq]
    constructor
    · rintro (hlonger | ⟨rfl, rfl⟩)
      · split at hlonger
        · rename_i hc
          obtain ⟨⟨taken', rest'⟩, hmem, heq⟩ := List.mem_map.mp hlonger
          obtain ⟨rfl, rfl⟩ := Prod.mk.inj heq
          obtain ⟨hclass, rfl⟩ := ih.mp hmem
          exact ⟨List.forall_mem_cons.mpr ⟨hc, hclass⟩, rfl⟩
        · cases hlonger
      · exact ⟨by simp, rfl⟩
    · rintro ⟨hclass, heq⟩
      rcases taken with _ | ⟨d, taken⟩
      · exact .inr ⟨rfl, heq⟩
      · obtain ⟨rfl, htail⟩ := List.cons.inj heq
        obtain ⟨hc, hclass⟩ := List.forall_mem_cons.mp hclass
        rw [if_pos hc]
        exact .inl (List.mem_map.mpr ⟨(taken, rest), ih.mpr ⟨hclass, htail⟩, rfl⟩)

/-- **The ways of a pattern are the starts of the text that it matches.** -/
theorem mem_ways_iff {p : Pattern} :
    (taken, rest) ∈ p.ways cs ↔ p.Matches taken ∧ taken ++ rest = cs := by
  induction p generalizing taken rest cs with
  | run p => exact mem_runs_iff
  | mark c =>
    simp only [ways, Matches, List.mem_map, Option.mem_toList, dropLead?_eq_some_iff,
      Prod.mk.injEq]
    constructor
    · rintro ⟨_, rfl, rfl, rfl⟩
      exact ⟨rfl, rfl⟩
    · rintro ⟨rfl, rfl⟩
      exact ⟨rest, rfl, rfl, rfl⟩
  | seq first second ihfirst ihsecond =>
    simp only [ways, Matches, List.mem_flatMap, List.mem_map, Prod.exists, Prod.map_apply, id,
      Prod.mk.injEq]
    constructor
    · rintro ⟨as, behind, hfirst, bs, rest', hsecond, rfl, rfl⟩
      obtain ⟨has, rfl⟩ := ihfirst.mp hfirst
      obtain ⟨hbs, rfl⟩ := ihsecond.mp hsecond
      exact ⟨⟨as, bs, has, hbs, rfl⟩, List.append_assoc _ _ _⟩
    · rintro ⟨⟨as, bs, has, hbs, rfl⟩, rfl⟩
      exact ⟨as, bs ++ rest, ihfirst.mpr ⟨has, (List.append_assoc _ _ _).symm⟩, bs, rest,
        ihsecond.mpr ⟨hbs, rfl⟩, rfl, rfl⟩
  | optional inner ih =>
    simp only [ways, Matches, List.mem_append, List.mem_singleton, Prod.mk.injEq, ih]
    constructor
    · rintro (⟨hinner, heq⟩ | ⟨rfl, rfl⟩)
      · exact ⟨.inr hinner, heq⟩
      · exact ⟨.inl rfl, rfl⟩
    · rintro ⟨rfl | hinner, heq⟩
      · exact .inr ⟨rfl, heq⟩
      · exact .inl ⟨hinner, heq⟩

/-! ### What comes first -/

/-- The first run is the longest one. -/
theorem head?_runs (p : Char → Bool) (cs : List Char) :
    (runs p cs).head? = some (cs.takeWhile p, cs.dropWhile p) := by
  induction cs with
  | nil => rfl
  | cons c cs ih =>
    rw [runs]
    by_cases hc : p c = true
    · rw [if_pos hc, List.head?_append, List.head?_map, ih, List.takeWhile_cons_of_pos hc,
        List.dropWhile_cons_of_pos hc]
      rfl
    · rw [if_neg hc, List.takeWhile_cons_of_neg hc, List.dropWhile_cons_of_neg hc]
      rfl

/-- A run up to a mark that it cannot pass ends at the first such mark, or there is none. -/
theorem ways_upTo (c : Char) (cs : List Char) :
    (seq (.run (· ≠ c)) (.mark c)).ways cs =
      (cutAt? c cs).toList.map (Prod.map (· ++ [c]) id) := by
  induction cs with
  | nil => rfl
  | cons d cs ih =>
    rw [ways, cutAt?, ways, runs, List.flatMap_append, List.flatMap_singleton]
    by_cases hd : d = c
    · subst hd
      simp [ways, dropLead?]
    · -- no mark stands behind the empty run, and the others are those of the rest, by one longer
      have hempty : ways (.mark c) (d :: cs) = [] := by simp [ways, dropLead?, Ne.symm hd]
      have hclass : decide (d ≠ c) = true := decide_eq_true hd
      rw [hempty, List.map_nil, List.append_nil, if_pos hclass, if_neg hd, List.flatMap_map]
      calc (runs (· ≠ c) cs).flatMap (fun way =>
              (ways (.mark c) way.2).map (Prod.map (d :: way.1 ++ ·) id))
          = ((seq (.run (· ≠ c)) (.mark c)).ways cs).map (Prod.map (d :: ·) id) := by
            rw [ways, ways, List.map_flatMap]
            simp only [List.map_map, Prod.map_comp_map, Function.comp_id]
            rfl
        _ = (((cutAt? c cs).map (Prod.map (d :: ·) id)).toList).map (Prod.map (· ++ [c]) id) := by
            rw [ih]
            cases cutAt? c cs <;> rfl

end Pattern

end UrlTemplate.Template
