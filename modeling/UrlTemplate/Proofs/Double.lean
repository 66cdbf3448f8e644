import Mathlib.Algebra.Order.Field.Power
import Mathlib.Algebra.Order.Floor.Semifield
import Mathlib.Data.Rat.Floor
import Mathlib.Tactic.FieldSimp
import Mathlib.Tactic.Positivity
import Mathlib.Tactic.Ring
import UrlTemplate.Double

/-!
# The values of doubles

A finite double is a rational number (`Double.toRat?`); `Double.truncate?` is that number cut off
toward zero (`Double.truncate?_eq`). A whole number is too large for a double exactly from half a
unit above the greatest one on (`Double.Oversize`, `Double.ofInt?_eq_none_iff`).
-/

namespace UrlTemplate.Double

/-! ## Finite numbers as rational numbers -/

/-- The value of a finite number. -/
def toRat? (x : Double) : Option ℚ :=
  if x.isFinite then
    some ((if x.isNegative then -1 else 1) * (x.significand * (2 : ℚ) ^ x.exponent))
  else none

/-- Exactly a number that is not finite has no value. -/
theorem toRat?_eq_none_iff {x : Double} : x.toRat? = none ↔ ¬ x.isFinite := by
  simp [toRat?]

/-- A number without its fractional part. -/
def towardZero (q : ℚ) : ℤ :=
  if q < 0 then ⌈q⌉ else ⌊q⌋

/-- A number that is not negative is rounded down. -/
theorem towardZero_of_nonneg {q : ℚ} (h : 0 ≤ q) : towardZero q = ⌊q⌋ := by
  simp [towardZero, not_lt.mpr h]

/-- The opposite number has the opposite whole part. -/
theorem towardZero_neg (q : ℚ) : towardZero (-q) = -towardZero q := by
  rcases lt_trichotomy q 0 with h | rfl | h
  · rw [towardZero_of_nonneg (by linarith), towardZero, if_pos h, Int.floor_neg]
  · simp [towardZero]
  · rw [towardZero_of_nonneg h.le, towardZero, if_pos (by linarith), Int.ceil_neg]

/-- The whole part of a magnitude, as it is computed from the significand. -/
theorem floor_significand (m : Nat) (e : Int) :
    ⌊(m : ℚ) * 2 ^ e⌋ =
      ((if 0 ≤ e then m * Nat.pow 2 e.toNat else m / Nat.pow 2 (-e).toNat : Nat) : ℤ) := by
  split
  · rename_i he
    obtain ⟨k, rfl⟩ := Int.eq_ofNat_of_zero_le he
    have hcast : (m : ℚ) * 2 ^ (k : ℤ) = ((m * 2 ^ k : ℕ) : ℚ) := by push_cast; simp
    simp only [hcast, Int.floor_natCast, Int.toNat_natCast]
    rfl
  · rename_i he
    obtain ⟨k, hk⟩ := Int.eq_ofNat_of_zero_le (by omega : 0 ≤ -e)
    obtain rfl : e = -(k : ℤ) := by omega
    have hcast : (m : ℚ) * 2 ^ (-(k : ℤ)) = (m : ℚ) / ((2 ^ k : ℕ) : ℚ) := by
      rw [zpow_neg, zpow_natCast]
      push_cast
      rfl
    rw [hcast, neg_neg, Int.toNat_natCast, Rat.floor_natCast_div_natCast]
    rfl

/-- Cutting off the fractional part of a double is cutting off that of its value. -/
theorem truncate?_eq (x : Double) : x.truncate? = x.toRat?.map towardZero := by
  unfold truncate? toRat?
  split
  · have hnonneg : 0 ≤ (x.significand : ℚ) * 2 ^ x.exponent := by positivity
    have hfloor := (towardZero_of_nonneg hnonneg).trans (floor_significand x.significand x.exponent)
    cases hneg : x.isNegative
    · simp [hfloor]
    · simp [towardZero_neg, hfloor]
  · rfl

/-- Exactly a number that is not finite cannot be cut off. -/
theorem truncate?_eq_none_iff {x : Double} : x.truncate? = none ↔ ¬ x.isFinite := by
  rw [truncate?_eq, Option.map_eq_none_iff, toRat?_eq_none_iff]

/-! ## Whole numbers that are too large -/

/-- A magnitude that fits is found again. -/
@[simp] theorem magnitude_ofMagnitude {m : Nat} (h : m < 2 ^ 63) (negative : Bool) :
    (ofMagnitude negative m).magnitude = m := by
  have hlt : m + (if negative then 2 ^ 63 else 0) < 2 ^ 64 := by split <;> omega
  have hbits : (ofMagnitude negative m).bits.toNat = m + if negative then 2 ^ 63 else 0 :=
    UInt64.toNat_ofNat_of_lt' hlt
  show (ofMagnitude negative m).bits.toNat % 2 ^ 63 = m
  rw [hbits]
  split <;> omega

/-- A number is finite if its magnitude is below that of the infinite ones. -/
theorem isFinite_ofMagnitude {m : Nat} (h : m < 2 ^ 63) (negative : Bool) :
    (ofMagnitude negative m).isFinite ↔ m < infiniteMagnitude := by
  simp [isFinite, magnitude_ofMagnitude h]

/-- The infinite numbers are not finite. -/
theorem not_isFinite_infinite (negative : Bool) : ¬ (infinite negative).isFinite := by
  have hlt : infiniteMagnitude < 2 ^ 63 := by decide
  simp [infinite, isFinite_ofMagnitude hlt]

/-- Rounding to the nearest does not go below the whole part. -/
theorem div_le_divNearest (num den : Nat) : num / den ≤ divNearest num den := by
  simp only [divNearest]
  split <;> omega

/-- Rounding to the nearest goes up by at most one. -/
theorem divNearest_le (num den : Nat) : divNearest num den ≤ num / den + 1 := by
  simp only [divNearest]
  split <;> omega

/-- An even number is reached by rounding from half a unit below it on. -/
theorem le_divNearest_iff {m num den : Nat} (hden : 0 < den) (heven : m % 2 = 0) :
    m ≤ divNearest num den ↔ 2 * (m * den) ≤ 2 * num + den := by
  have hnum := Nat.div_add_mod' num den
  have hrest := Nat.mod_lt num hden
  have hle := div_le_divNearest num den
  have hge := divNearest_le num den
  rcases lt_trichotomy (num / den + 1) m with h | h | h
  · have hmul := Nat.mul_le_mul_right den (show num / den + 2 ≤ m from h)
    rw [Nat.add_mul] at hmul
    omega
  · -- the quotient is odd, so that half a unit is rounded upwards
    have hmul : m * den = num / den * den + den := by rw [← h, Nat.add_mul, one_mul]
    simp only [divNearest]
    split <;> omega
  · have hmul := Nat.mul_le_mul_right den (Nat.le_of_lt_succ h)
    omega

/-- In units of a power of two the denominator is that many times as large. -/
theorem inUnits_natCast (num den e : Nat) : inUnits num den e = (num, den * 2 ^ e) := by
  simp [inUnits]

/-- In units that leave `t` binary places behind its first one, a whole number has just these. -/
theorem inUnits_log2 {num : Nat} (h : num ≠ 0) (t : Nat) {n d : Nat}
    (hunits : inUnits num 1 (num.log2 - t) = (n, d)) :
    0 < d ∧ 2 ^ t * d ≤ n ∧ n < 2 ^ (t + 1) * d := by
  have hlow : 2 ^ num.log2 ≤ num := Nat.log2_self_le h
  have hhigh : num < 2 ^ (num.log2 + 1) := Nat.lt_log2_self
  unfold inUnits at hunits
  split at hunits <;> obtain ⟨rfl, rfl⟩ := Prod.mk.inj hunits
  · obtain ⟨j, hj⟩ : ∃ j, num.log2 = j + t := ⟨num.log2 - t, by omega⟩
    have hto : ((num.log2 : Int) - t).toNat = j := by omega
    rw [hj] at hlow hhigh
    rw [hto, one_mul]
    refine ⟨Nat.pow_pos (by decide), ?_, ?_⟩
    · calc 2 ^ t * Nat.pow 2 j = 2 ^ (j + t) := by rw [pow_add, mul_comm]; rfl
        _ ≤ num := hlow
    · calc num < 2 ^ (j + t + 1) := hhigh
        _ = 2 ^ (t + 1) * Nat.pow 2 j := by rw [add_assoc, pow_add, mul_comm]; rfl
  · obtain ⟨j, hj⟩ : ∃ j, t = num.log2 + j := ⟨t - num.log2, by omega⟩
    have hto : (-((num.log2 : Int) - t)).toNat = j := by omega
    have hpos : 0 < Nat.pow 2 j := Nat.pow_pos (by decide)
    rw [hto, mul_one, mul_one]
    refine ⟨Nat.one_pos, ?_, ?_⟩
    · calc 2 ^ t = 2 ^ num.log2 * Nat.pow 2 j := by rw [hj, pow_add]; rfl
        _ ≤ num * Nat.pow 2 j := Nat.mul_le_mul_right _ hlow
    · calc num * Nat.pow 2 j < 2 ^ (num.log2 + 1) * Nat.pow 2 j :=
            Nat.mul_lt_mul_of_pos_right hhigh hpos
        _ = 2 ^ (t + 1) := by rw [hj, Nat.add_right_comm _ j, pow_add _ _ j]; rfl

/-- A whole number has its unit in the last place 52 binary places below its first one. -/
theorem isFinite_ofRatio_one {num : Nat} (h : num ≠ 0) (negative : Bool) {n d : Nat}
    (hunits : inUnits num 1 (num.log2 - 52) = (n, d)) :
    (ofRatio negative num 1).isFinite ↔
      (num.log2 + 1022) * 2 ^ 52 + divNearest n d < infiniteMagnitude := by
  obtain ⟨n', d', hguess⟩ : ∃ n' d', inUnits num 1 (num.log2 - 53) = (n', d') := ⟨_, _, rfl⟩
  obtain ⟨hd', hlow, -⟩ := inUnits_log2 h 53 hguess
  have hone : Nat.log2 1 = 0 := by decide
  have hmax : max ((num.log2 : Int) - (0 : Nat) - 53) (-1074) = num.log2 - 53 := by omega
  have hnot : ¬ n' / d' < Nat.pow 2 53 := not_lt.mpr ((Nat.le_div_iff_mul_le hd').mpr hlow)
  have hnext : (num.log2 : Int) - 53 + 1 = num.log2 - 52 := by omega
  have hbiased : ((num.log2 : Int) - 52 + 1074).toNat = num.log2 + 1022 := by omega
  have hzero : ¬ (num = 0 ∨ 1 = 0) := by simp [h]
  simp only [ofRatio, if_neg hzero, hone, hmax, hguess, if_neg hnot, hnext, hunits, hbiased]
  have hlt : infiniteMagnitude < 2 ^ 63 := by decide
  split
  · rename_i hfinite
    exact isFinite_ofMagnitude (hfinite.trans hlt) negative
  · rename_i hinfinite
    exact iff_of_false (not_isFinite_infinite negative) hinfinite

/-- A whole number at least half a unit in the last place above the greatest double, which is
`2 ^ 1024 - 2 ^ 971`. -/
def Oversize (n : Int) : Prop :=
  2 ^ 1024 - 2 ^ 970 ≤ n.natAbs

instance (n : Int) : Decidable (Oversize n) :=
  Nat.decLe _ _

/-- **The whole numbers without a double** are the oversize ones. -/
theorem ofInt?_eq_none_iff {n : Int} : ofInt? n = none ↔ Oversize n := by
  have hnone : ofInt? n = none ↔ ¬ (ofRatio (n < 0) n.natAbs 1).isFinite := by
    simp [ofInt?]
  rw [hnone, Oversize]
  generalize n.natAbs = num
  -- everything in halves of the last place
  obtain ⟨half, hhalf⟩ : ∃ half, half = 2 ^ 970 := ⟨_, rfl⟩
  have hpos : 0 < half := by rw [hhalf]; positivity
  have hbound : 2 ^ 1024 - 2 ^ 970 = 2 ^ 54 * half - half := by rw [hhalf, ← pow_add]
  rw [hbound]
  by_cases hzero : num = 0
  · subst hzero
    refine iff_of_false (not_not.mpr ?_) ?_
    · simp only [ofRatio, true_or, if_true, zero]
      exact (isFinite_ofMagnitude (by decide) _).mpr (by decide)
    · omega
  · obtain ⟨u, d, hunits⟩ : ∃ u d, inUnits num 1 (num.log2 - (52 : Nat)) = (u, d) := ⟨_, _, rfl⟩
    obtain ⟨hd, hlow, hhigh⟩ := inUnits_log2 hzero 52 hunits
    have hfloor : 2 ^ 52 ≤ u / d := (Nat.le_div_iff_mul_le hd).mpr hlow
    have hceil : u / d < 2 ^ 53 := (Nat.div_lt_iff_lt_mul hd).mpr hhigh
    have hge := div_le_divNearest u d
    have hle := divNearest_le u d
    have hinf : infiniteMagnitude = 2047 * 2 ^ 52 := rfl
    rw [isFinite_ofRatio_one hzero _ hunits, hinf]
    rcases lt_trichotomy num.log2 1023 with hlog | hlog | hlog
    · have hnum : num < 2 ^ 53 * half := by
        rw [hhalf, ← pow_add, ← Nat.log2_lt hzero]
        omega
      refine iff_of_false (not_not.mpr ?_) ?_ <;> omega
    · -- only here does it depend on how the last place is rounded
      have hlast : (num.log2 : Int) - (52 : Nat) = (971 : Nat) := by omega
      rw [hlast, inUnits_natCast] at hunits
      obtain ⟨rfl, hunit⟩ := Prod.mk.inj hunits
      have hd' : d = 2 * half := by rw [← hunit, hhalf, one_mul, ← pow_succ']
      have hround : 2 ^ 53 ≤ divNearest num d ↔ _ := le_divNearest_iff hd (by decide)
      rw [hd'] at hround hle ⊢
      omega
    · have hnum : 2 ^ 54 * half ≤ num := by
        rw [hhalf, ← pow_add, ← Nat.le_log2 hzero]
        omega
      refine iff_of_true ?_ ?_ <;> omega

end UrlTemplate.Double
