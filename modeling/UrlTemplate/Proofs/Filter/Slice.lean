import UrlTemplate.Proofs.Filter.Refusal

/-!
# The slice that the filter `substr` cuts out

Templates give the start and the length of a slice as texts. A text that stands for a finite number
is cut off toward zero (`Builtin.wholeNumber_str`), and a slice is the list of the characters at the
indices of a window (`Builtin.toList_slice`), which a start in front of the text begins at its first
character and a length of no characters leaves empty.

**Theorem** (`Builtin.substr_of_texts`): when `substr` fails on texts as arguments, with which kind
of failure, and what it answers else.
-/

namespace UrlTemplate.Builtin

/-! ### Windows of a list -/

variable {α : Type}

/-- The elements from an index on are what is left when those before it are dropped. -/
theorem filter_le_zipIdx (l : List α) (k a : Nat) :
    ((l.zipIdx k).filter fun p => a ≤ p.2) = (l.drop (a - k)).zipIdx (max a k) := by
  induction l generalizing k with
  | nil => simp
  | cons x l ih =>
    rw [List.zipIdx_cons]
    by_cases h : a ≤ k
    · have hdrop : a - k = 0 := by omega
      have hnext : a - (k + 1) = 0 := by omega
      have hmax : max a k = k := by omega
      have hmax' : max a (k + 1) = k + 1 := by omega
      rw [List.filter_cons_of_pos (by simpa using h), ih, hdrop, hnext, hmax, hmax', List.drop_zero,
        List.drop_zero, List.zipIdx_cons]
    · have hdrop : a - k = a - (k + 1) + 1 := by omega
      have hmax : max a k = max a (k + 1) := by omega
      rw [List.filter_cons_of_neg (by simpa using h), ih, hdrop, hmax, List.drop_succ_cons]

/-- The elements below an index are a front part of the list. -/
theorem filter_lt_zipIdx (l : List α) (k e : Nat) :
    ((l.zipIdx k).filter fun p => p.2 < e) = (l.take (e - k)).zipIdx k := by
  induction l generalizing k with
  | nil => simp
  | cons x l ih =>
    rw [List.zipIdx_cons]
    by_cases h : k < e
    · have htake : e - k = e - (k + 1) + 1 := by omega
      rw [List.filter_cons_of_pos (by simpa using h), ih, htake, List.take_succ_cons,
        List.zipIdx_cons]
    · have htake : e - k = 0 := by omega
      have hnext : e - (k + 1) = 0 := by omega
      rw [List.filter_cons_of_neg (by simpa using h), ih, htake, hnext]
      rfl

/-- The elements of a list at the indices from `begin` on, and below `begin + n` if a count `n` is
given. -/
def window (l : List α) (begin : Int) (count : Option Int) : List α :=
  (l.zipIdx.filter fun p => begin ≤ p.2 ∧ ∀ n ∈ count, (p.2 : Int) < begin + n).map Prod.fst

/-- A window without a count is all from its beginning on. -/
theorem window_none (l : List α) (a : Nat) : window l a none = l.drop a := by
  simp [window, filter_le_zipIdx]

/-- A window with a count has that many elements from its beginning on, and none if the count is
negative. -/
theorem window_some (l : List α) (a : Nat) (n : Int) :
    window l a (some n) = (l.drop a).take n.toNat := by
  -- no index is below the beginning, so that a negative count can as well be zero
  have hfilter (p : α × Nat) :
      decide ((a : Int) ≤ p.2 ∧ ∀ m ∈ some n, (p.2 : Int) < a + m) =
        (decide (p.2 < a + n.toNat) && decide (a ≤ p.2)) := by
    rw [← Bool.decide_and, decide_eq_decide]
    simp only [Option.mem_some_iff, forall_eq']
    omega
  have hcount : a + n.toNat - max a 0 = n.toNat := by omega
  simp only [window, hfilter]
  rw [← List.filter_filter, filter_le_zipIdx, filter_lt_zipIdx, List.zipIdx_map_fst, hcount,
    Nat.sub_zero]

/-! ### The slice -/

/-- Where a slice of a text of `length` characters begins. -/
def sliceBegin (length : Nat) (start : Int) : Int :=
  if 0 ≤ start then start else max (length + start) 0

/-- A slice begins where it should, also if that is counted from the end. -/
theorem natCast_sliceStart (length : Nat) (start : Int) :
    (sliceStart length start : Int) = sliceBegin length start := by
  unfold sliceStart sliceBegin
  split <;> split <;> omega

/-- A slice consists of the characters in its window. -/
theorem toList_slice (s : String) (start : Int) (count : Option Int) :
    (slice s start count).toList =
      window s.toList (sliceBegin s.toList.length start) count := by
  rw [← natCast_sliceStart]
  cases count with
  | none => rw [window_none]; exact String.toList_ofList
  | some n => rw [window_some]; exact String.toList_ofList

/-- The number that a text stands for, if it is finite. -/
def finite? (s : String) : Option ℚ :=
  (Double.read? s).bind Double.toRat?

/-- A text as a whole number is the number that it stands for, cut off toward zero. -/
theorem wholeNumber_str (label s : String) :
    wholeNumber label (.str s) =
      (finite? s).elim (.error (.notANumber label (Value.str s).quoted)) fun q =>
        .ok (Double.towardZero q) := by
  have hnumber : number (.str s) = .ok ((Double.read? s).getD .nan) := rfl
  have hnan : Double.nan.toRat? = none := Double.toRat?_eq_none_iff.mpr (by decide)
  rw [wholeNumber_of_number hnumber, notFinite_eq, Value.fault?_str, Double.truncate?_eq, finite?]
  cases hs : Double.read? s with
  | none => simp [hnan]
  | some x => cases hx : x.toRat? <;> simp [hx]

/-- What `substr` answers for a text, a start that is finite, and a length that is finite if it is
given. -/
theorem apply_substr_of_finite {s : String} {args : List String} {start : ℚ}
    (hstart : args[0]?.bind finite? = some start)
    (hlength : ∀ length ∈ args[1]?, finite? length ≠ none) :
    substr.apply (.str s) (args.map .str) =
      .ok (.str (String.ofList (window s.toList
        (sliceBegin s.toList.length (Double.towardZero start))
        ((args[1]?.bind finite?).map Double.towardZero)))) := by
  cases args with
  | nil => simp at hstart
  | cons first rest =>
    have hfirst : finite? first = some start := by simpa using hstart
    have hbegin : wholeNumber "Start index" (.str first) = .ok (Double.towardZero start) := by
      simp [wholeNumber_str, hfirst]
    have hcount : count ((rest.map Value.str).headD .null) =
        .ok ((rest[0]?.bind finite?).map Double.towardZero) := by
      cases rest with
      | nil => rfl
      | cons second rest =>
        obtain ⟨c, hc⟩ := Option.ne_none_iff_exists'.mp (hlength second rfl)
        simp [count, wholeNumber_str, hc, Except.map]
    have hsubstring : substring s (.str first) ((rest.map Value.str).headD .null) =
        .ok (slice s (Double.towardZero start)
          ((rest[0]?.bind finite?).map Double.towardZero)) := by
      rw [substring_eq, hbegin, hcount]
      rfl
    rw [List.getElem?_cons_succ, ← toList_slice, String.ofList_toList]
    calc substr.apply (.str s) ((first :: rest).map .str)
        = substring s (.str first) ((rest.map Value.str).headD .null) >>= fun slice =>
            .ok (.str slice) := rfl
      _ = _ := by rw [hsubstring]; rfl

/-- A start that is missing or not finite, or a length that is given and not finite, is refused. -/
theorem exists_refuses_substr {s : String} {args : List String}
    (h : args[0]?.bind finite? = none ∨ ∃ length, args[1]? = some length ∧ finite? length = none) :
    ∃ e, Refuses (.str s) (args.map .str) .substr e := by
  cases hstart : wholeNumber "Start index" ((args.map Value.str).headD .null) with
  | error e => exact ⟨e, .start rfl (wholeNumber_eq_error_iff.mp hstart)⟩
  | ok begin =>
    -- the start is all right, so it is the length
    obtain _ | ⟨first, rest⟩ := args
    · cases hstart
    · have hfirst : finite? first ≠ none := by
        intro hnone
        simp [wholeNumber_str, hnone] at hstart
      obtain ⟨length, hgiven, hlength⟩ := h.resolve_left (by simpa using hfirst)
      obtain _ | ⟨second, rest⟩ := rest
      · cases hgiven
      · obtain rfl : second = length := by simpa using hgiven
        have herror : wholeNumber "Length" (.str second) =
            .error (.notANumber "Length" (Value.str second).quoted) := by
          rw [wholeNumber_str, hlength, Option.elim_none]
        exact ⟨_, .length rfl hstart nofun (wholeNumber_eq_error_iff.mp herror)⟩

/-- **The filter `substr` with texts as arguments is the clamped slice.** -/
theorem substr_of_texts (v : Value) (args : List String) :
    (∀ e, substr.apply v (args.map .str) = .error e → e.isArgument) ∧
    ((∃ e, substr.apply v (args.map .str) = .error e) ↔
      (∀ s, v ≠ .str s) ∨ args[0]?.bind finite? = none ∨
        ∃ length, args[1]? = some length ∧ finite? length = none) ∧
    ∀ s start, v = .str s → args[0]?.bind finite? = some start →
      (∀ length ∈ args[1]?, finite? length ≠ none) →
      substr.apply v (args.map .str) =
        .ok (.str (String.ofList (window s.toList
          (sliceBegin s.toList.length (Double.towardZero start))
          ((args[1]?.bind finite?).map Double.towardZero)))) := by
  refine ⟨?_, ⟨?_, ?_⟩, ?_⟩
  · intro e h
    refine (apply_eq_error_iff.mp h).isArgument.resolve_right ?_
    rintro (rfl | ⟨fault, rfl⟩)
    · -- a whole number is no text
      obtain ⟨-, -, n, -, hn | ⟨-, hn⟩⟩ := refuses_outOfRange_iff.mp (apply_eq_error_iff.mp h)
      · cases args <;> cases hn
      · obtain _ | ⟨first, _ | ⟨second, rest⟩⟩ := args <;> cases hn
    · -- a text can be written
      have hshown (args : List String) : ¬ Unshown ((args.map Value.str).headD .null) fault := by
        rintro ⟨-, hfault⟩
        cases args <;> cases hfault
      rcases refuses_unwritable_iff.mp (apply_eq_error_iff.mp h) with
        ⟨writing, hwrites, -⟩ | ⟨-, -, hstart | ⟨-, -, hlength⟩⟩
      · cases hwrites
      · exact hshown args hstart
      · rw [← List.map_tail] at hlength
        exact hshown args.tail hlength
  · rintro ⟨e, h⟩
    by_contra hnone
    simp only [not_or, not_forall, not_not, ne_eq, not_exists, not_and] at hnone
    obtain ⟨⟨s, rfl⟩, hstart, hlength⟩ := hnone
    obtain ⟨start, hstart⟩ := Option.ne_none_iff_exists'.mp hstart
    cases h.symm.trans (apply_substr_of_finite hstart hlength)
  · intro h
    cases v with
    | str s =>
      obtain ⟨e, he⟩ := exists_refuses_substr (s := s) (h.resolve_left fun hv => hv s rfl)
      exact ⟨e, apply_eq_error_iff.mpr he⟩
    | _ => exact ⟨_, apply_eq_error_iff.mpr (.value rfl nofun)⟩
  · rintro s start rfl hstart hlength
    exact apply_substr_of_finite hstart hlength

/-- A start that counts from the end, and a length far beyond it. -/
theorem substr_of_texts_far :
    substr.apply (.str "template") (["-2.5", "1e300", "x"].map .str) = .ok (.str "te") := by
  have hstart : (["-2.5", "1e300", "x"][0]?).bind finite? = some (-5 / 2) := by decide +kernel
  have hlength : ∀ length ∈ ["-2.5", "1e300", "x"][1]?, finite? length ≠ none := by
    decide +kernel
  have hanswer := (substr_of_texts (.str "template") ["-2.5", "1e300", "x"]).2.2 "template" _ rfl
    hstart hlength
  rw [hanswer]
  decide +kernel

end UrlTemplate.Builtin
