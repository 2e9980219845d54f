import JsonQuery.Double
import Mathlib.Algebra.Order.Field.Rat
import Mathlib.Algebra.Order.Field.Power
import Mathlib.Tactic.Linarith
import Mathlib.Tactic.NormNum
import Mathlib.Tactic.Positivity

/-!
# The size of doubles

* `Double.abs_toRat` — the magnitude of a double; `Double.abs_toRat_lt` bounds it by the exponent, and
  `Double.toRat_signed` gives it its sign.
* `Double.ofRatio?_one` — a natural number has a nearest double, unless it is too large.
-/

namespace JsonQuery.Double

theorem twoPow_eq (e : Int) : twoPow e = (2 : ℚ) ^ e := by
  unfold twoPow
  split
  · rename_i he
    obtain ⟨n, rfl⟩ := Int.eq_ofNat_of_zero_le he
    simp
  · rename_i he
    obtain ⟨n, rfl⟩ : ∃ n : Nat, e = -(n : Int) := ⟨(-e).toNat, by omega⟩
    simp

/-- The magnitude of a double. -/
theorem abs_toRat (x : Double) : |x.toRat| = x.mantissa * (2 : ℚ) ^ x.exponent := by
  have hpos : (0 : ℚ) ≤ x.mantissa * (2 : ℚ) ^ x.exponent := by positivity
  unfold toRat
  rw [twoPow_eq, mul_assoc]
  split
  · rw [neg_one_mul, abs_neg, abs_of_nonneg hpos]
  · rw [one_mul, abs_of_nonneg hpos]

/-- The factor that a sign stands for. -/
def signOf (negative : Bool) : ℚ := if negative then -1 else 1

@[simp] theorem abs_signOf (negative : Bool) : |signOf negative| = 1 := by
  cases negative <;> simp [signOf]

/-- A double is its magnitude with its sign. -/
theorem toRat_signed (x : Double) : x.toRat = signOf x.negative * |x.toRat| := by
  rw [abs_toRat]
  unfold toRat signOf
  rw [twoPow_eq, mul_assoc]

theorem signOf_of_pos {x : Double} (h : 0 < x.toRat) : signOf x.negative = 1 := by
  cases hx : x.negative with
  | false => rfl
  | true =>
    rw [toRat_signed, hx, show signOf true = -1 from rfl, neg_one_mul] at h
    linarith [abs_nonneg x.toRat]

theorem signOf_of_neg {x : Double} (h : x.toRat < 0) : signOf x.negative = -1 := by
  cases hx : x.negative with
  | true => rfl
  | false =>
    rw [toRat_signed, hx, show signOf false = 1 from rfl, one_mul] at h
    linarith [abs_nonneg x.toRat]

theorem toRat_abs (x : Double) : x.abs.toRat = |x.toRat| := by
  rw [toRat_signed, show signOf x.abs.negative = 1 from rfl, one_mul, abs_toRat, abs_toRat]
  rfl

/-- The magnitude of a double without binary places is a natural number. -/
theorem exists_nat {x : Double} (h : 0 ≤ x.exponent) : ∃ i : Nat, |x.toRat| = i := by
  obtain ⟨n, hn⟩ := Int.eq_ofNat_of_zero_le h
  refine ⟨x.mantissa * 2 ^ n, ?_⟩
  rw [abs_toRat, hn, zpow_natCast]
  push_cast
  rfl

theorem exists_int {x : Double} (h : 0 ≤ x.exponent) : ∃ i : Int, x.toRat = i := by
  obtain ⟨i, hi⟩ := exists_nat h
  refine ⟨(if x.negative then -1 else 1) * i, ?_⟩
  rw [toRat_signed, hi]
  unfold signOf
  push_cast
  rfl

/-- All doubles have finitely many binary places. -/
theorem exists_places (x : Double) : ∃ m n : Nat, |x.toRat| = m / 2 ^ n := by
  rcases Int.le_total 0 x.exponent with h | h
  · obtain ⟨i, hi⟩ := exists_nat h
    exact ⟨i, 0, by rw [hi, pow_zero, div_one]⟩
  · obtain ⟨n, hn⟩ : ∃ n : Nat, x.exponent = -(n : Int) := ⟨(-x.exponent).toNat, by omega⟩
    refine ⟨x.mantissa, n, ?_⟩
    rw [abs_toRat, hn, zpow_neg, zpow_natCast, div_eq_mul_inv]

theorem abs_toRat_lt {x : Double} {n : Nat} (h : x.exponent + 53 ≤ n) : |x.toRat| < 2 ^ n := by
  have hmantissa : (x.mantissa : ℚ) < 2 ^ 53 := by exact_mod_cast x.canonical.1
  have hpower : (0 : ℚ) < 2 ^ x.exponent := by positivity
  calc |x.toRat| = x.mantissa * (2 : ℚ) ^ x.exponent := abs_toRat x
    _ < 2 ^ (53 : Int) * 2 ^ x.exponent := by
      rw [zpow_ofNat]
      exact mul_lt_mul_of_pos_right hmantissa hpower
    _ = 2 ^ (x.exponent + 53) := by rw [← zpow_add₀ two_ne_zero, add_comm]
    _ ≤ 2 ^ (n : Int) := zpow_le_zpow_right₀ one_le_two h
    _ = 2 ^ n := zpow_natCast 2 n

/-! ## Rounding -/

theorem div_le_roundHalfEven (num den : Nat) : num / den ≤ roundHalfEven num den := by
  unfold roundHalfEven
  simp only
  split <;> omega

theorem roundHalfEven_le (num den : Nat) : roundHalfEven num den ≤ num / den + 1 := by
  unfold roundHalfEven
  simp only
  split <;> omega

theorem roundHalfEven_one (num : Nat) : roundHalfEven num 1 = num := by
  unfold roundHalfEven
  simp only [Nat.mod_one, Nat.div_one]
  rw [if_neg (by omega)]

theorem roundHalfUp_le {m : Nat} (h : 10 ≤ m) : roundHalfUp m 10 ≤ m := by
  unfold roundHalfUp
  split <;> omega

theorem floorLog2_one {num : Nat} (h : num ≠ 0) : floorLog2 num 1 = num.log2 := by
  have hzero : (num.log2 : Int) - (Nat.log2 1 : Int) = num.log2 := Int.sub_zero _
  have hlow : 2 ^ num.log2 ≤ num := Nat.log2_self_le h
  unfold floorLog2
  simp [hzero, hlow]

theorem ofParts?_canonical {negative : Bool} {m : Nat} {e : Int} (h : Canonical m e) :
    ofParts? negative m e = some ⟨negative, m, e, h⟩ :=
  dif_pos h

/-- A quotient as a multiple of `2 ^ e`, rounded. -/
def multiple (num den : Nat) (e : Int) : Nat :=
  if 0 ≤ e then roundHalfEven num (den * Nat.pow 2 e.toNat)
  else roundHalfEven (num * Nat.pow 2 (-e).toNat) den

/-- The nearest double of a quotient has the rounded multiple as its mantissa, except for a carry. -/
theorem ofRatio?_eq {negative : Bool} {num den : Nat} {e : Int} (h : num ≠ 0)
    (he : max (-1074) (floorLog2 num den - 52) = e) : ofRatio? negative num den =
      if multiple num den e = 2 ^ 53 then ofParts? negative (2 ^ 52) (e + 1)
      else ofParts? negative (multiple num den e) e := by
  subst he
  unfold ofRatio?
  rw [if_neg h]
  rfl

/-- A natural number is rounded to 53 bits, or carries over. -/
theorem multiple_bounds {num : Nat} (h : num ≠ 0) :
    2 ^ 52 ≤ multiple num 1 (num.log2 - 52) ∧ multiple num 1 (num.log2 - 52) ≤ 2 ^ 53 := by
  have hlow : 2 ^ num.log2 ≤ num := Nat.log2_self_le h
  have hhigh : num < 2 ^ (num.log2 + 1) := Nat.lt_log2_self
  unfold multiple
  by_cases hsign : 0 ≤ (num.log2 : Int) - 52
  · obtain ⟨k, hk⟩ : ∃ k, num.log2 = 52 + k := ⟨num.log2 - 52, by omega⟩
    have hpow : 1 * Nat.pow 2 ((num.log2 : Int) - 52).toNat = 2 ^ k := by
      rw [one_mul, show ((num.log2 : Int) - 52).toNat = k by omega]
      rfl
    rw [if_pos hsign, hpow]
    rw [hk, Nat.pow_add] at hlow
    rw [hk, Nat.add_right_comm, Nat.pow_add] at hhigh
    have hquot : 2 ^ 52 ≤ num / 2 ^ k := (Nat.le_div_iff_mul_le (by positivity)).2 hlow
    have hquot' : num / 2 ^ k < 2 ^ 53 := (Nat.div_lt_iff_lt_mul (by positivity)).2 hhigh
    have hround := div_le_roundHalfEven num (2 ^ k)
    have hround' := roundHalfEven_le num (2 ^ k)
    omega
  · obtain ⟨k, hk⟩ : ∃ k, num.log2 + k = 52 := ⟨52 - num.log2, by omega⟩
    have hpow : Nat.pow 2 (-((num.log2 : Int) - 52)).toNat = 2 ^ k := by
      rw [show (-((num.log2 : Int) - 52)).toNat = k by omega]
      rfl
    rw [if_neg hsign, hpow, roundHalfEven_one]
    constructor
    · calc 2 ^ 52 = 2 ^ num.log2 * 2 ^ k := by rw [← Nat.pow_add, hk]
        _ ≤ num * 2 ^ k := Nat.mul_le_mul_right _ hlow
    · calc num * 2 ^ k ≤ 2 ^ (num.log2 + 1) * 2 ^ k := Nat.mul_le_mul_right _ (Nat.le_of_lt hhigh)
        _ = 2 ^ 53 := by rw [← Nat.pow_add, show num.log2 + 1 + k = 53 by omega]

/-- A natural number below 2^1023 has a nearest double, and the exponent is that of its leading 53 bits or
one more. -/
theorem ofRatio?_one {num : Nat} (negative : Bool) (h : num.log2 < 1023) :
    ∃ x, ofRatio? negative num 1 = some x ∧ x.exponent ≤ (num.log2 : Int) - 51 := by
  by_cases hzero : num = 0
  · subst hzero
    refine ⟨zero negative, rfl, ?_⟩
    show (-1074 : Int) ≤ (Nat.log2 0 : Int) - 51
    decide
  · have hexp : max (-1074) (floorLog2 num 1 - 52) = (num.log2 : Int) - 52 := by
      rw [floorLog2_one hzero]
      omega
    obtain ⟨hlow, hhigh⟩ := multiple_bounds hzero
    rw [ofRatio?_eq hzero hexp]
    by_cases hcarry : multiple num 1 ((num.log2 : Int) - 52) = 2 ^ 53
    · have hcanonical : Canonical (2 ^ 52) ((num.log2 : Int) - 52 + 1) :=
        ⟨by decide, by omega, by omega, .inl (Nat.le_refl _)⟩
      rw [if_pos hcarry, ofParts?_canonical hcanonical]
      refine ⟨_, rfl, ?_⟩
      show (num.log2 : Int) - 52 + 1 ≤ num.log2 - 51
      omega
    · have hcanonical : Canonical (multiple num 1 (num.log2 - 52)) ((num.log2 : Int) - 52) :=
        ⟨Nat.lt_of_le_of_ne hhigh hcarry, by omega, by omega, .inl hlow⟩
      rw [if_neg hcarry, ofParts?_canonical hcanonical]
      refine ⟨_, rfl, ?_⟩
      show (num.log2 : Int) - 52 ≤ num.log2 - 51
      omega

end JsonQuery.Double
