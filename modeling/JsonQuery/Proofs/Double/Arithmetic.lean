import Mathlib
import JsonQuery.Proofs.Double.Nearest

/-!
# Rounded results

* `Double.Rounds` — a double that a rational is rounded to: near it, and the rational itself where that is a
  double.
* `Double.add?_rounds`, `Double.mul?_rounds`, `Double.div?_rounds` — the operations round their exact results.
* `Double.round?_near` — rounding to an integer; `Double.ofInt?_exact`, `Double.floor?_exact` and
  `Double.ceil?_exact` — what is an integer already stays so.
-/

namespace JsonQuery.Double

variable {num den : Nat} {x y : Double} {q : ℚ}

/-! ## Rounded arithmetic -/

/-- A double that a rational is rounded to: always one nearby, and the rational where it is a double. -/
structure Rounds (y : Double) (q : ℚ) : Prop where
  near : |y.toRat - q| ≤ |q| / 2 ^ 53 + 1 / 2 ^ 1075
  exact : (∃ x : Double, x.toRat = q) → y.toRat = q

@[simp] theorem toRat_zero (negative : Bool) : (zero negative).toRat = 0 := by
  simp [toRat, zero]

theorem rounds_zero (negative : Bool) : Rounds (zero negative) 0 := by
  refine ⟨?_, fun _ => toRat_zero negative⟩
  rw [toRat_zero]
  norm_num

theorem ofRatio?_rounds (negative : Bool) (hden : den ≠ 0) (h : (num : ℚ) / den < 2 ^ 1023) :
    ∃ y, ofRatio? negative num den = some y ∧ Rounds y (signOf negative * (num / den)) := by
  obtain ⟨y, hy, hsign, hnear⟩ := ofRatio?_near negative hden h
  have hvalue : y.toRat = signOf negative * |y.toRat| := by rw [← hsign, ← toRat_signed]
  have hquot : |(num : ℚ) / den| = num / den :=
    abs_of_nonneg (div_nonneg (Nat.cast_nonneg num) (Nat.cast_nonneg den))
  refine ⟨y, hy, ?_, ?_⟩
  · rw [hvalue, ← mul_sub, abs_mul, abs_mul, abs_signOf, one_mul, one_mul, hquot]
    exact hnear
  · rintro ⟨x, hx⟩
    have habs : (num : ℚ) / den = |x.toRat| := by rw [hx, abs_mul, abs_signOf, one_mul, hquot]
    obtain ⟨z, hz, -, hexact⟩ := ofRatio?_exact negative hden habs
    rw [hy] at hz
    cases hz
    rw [hvalue, hexact, ← habs]

theorem nearest?_rounds (h : |q| < 2 ^ 1023) : ∃ y, nearest? q = some y ∧ Rounds y q := by
  have habs : (q.num.natAbs : ℚ) / q.den = |q| := by
    rw [Nat.cast_natAbs, Int.cast_abs]
    calc |(q.num : ℚ)| / q.den = |(q.num : ℚ) / q.den| := by rw [abs_div, Nat.abs_cast]
      _ = |q| := by rw [Rat.num_div_den]
  have hsigned : signOf (decide (q.num < 0)) * |q| = q := by
    unfold signOf
    rcases lt_or_ge q 0 with hneg | hpos
    · rw [if_pos (by simpa using hneg), abs_of_neg hneg]
      ring
    · rw [if_neg (by simpa using hpos), abs_of_nonneg hpos, one_mul]
  have hrounds := ofRatio?_rounds (decide (q.num < 0)) q.den_ne_zero (habs ▸ h)
  rwa [habs, hsigned] at hrounds

theorem isZero_iff : x.isZero = true ↔ x.toRat = 0 := by
  rw [← abs_eq_zero, abs_toRat]
  unfold isZero
  have hpos : (2 : ℚ) ^ x.exponent ≠ 0 := by positivity
  simp [hpos]

theorem add?_rounds (h : |x.toRat + y.toRat| < 2 ^ 1023) :
    ∃ z, x.add? y = some z ∧ Rounds z (x.toRat + y.toRat) := by
  unfold add?
  split
  · rename_i hzero
    rw [Bool.and_eq_true, isZero_iff, isZero_iff] at hzero
    rw [hzero.1, hzero.2, add_zero]
    exact ⟨_, rfl, rounds_zero _⟩
  · exact nearest?_rounds h

theorem mul?_rounds (h : |x.toRat * y.toRat| < 2 ^ 1023) :
    ∃ z, x.mul? y = some z ∧ Rounds z (x.toRat * y.toRat) := by
  unfold mul?
  split
  · rename_i hzero
    rw [Bool.or_eq_true, isZero_iff, isZero_iff] at hzero
    rw [mul_eq_zero.2 hzero]
    exact ⟨_, rfl, rounds_zero _⟩
  · exact nearest?_rounds h

theorem div?_rounds (hy : y.toRat ≠ 0) (h : |x.toRat / y.toRat| < 2 ^ 1023) :
    ∃ z, x.div? y = some z ∧ Rounds z (x.toRat / y.toRat) := by
  unfold div?
  rw [if_neg (mt isZero_iff.1 hy)]
  split
  · rename_i hzero
    rw [isZero_iff.1 hzero, zero_div]
    exact ⟨_, rfl, rounds_zero _⟩
  · exact nearest?_rounds h

/-! ## Integers -/

theorem ratio_ne (x : Double) : x.ratio.2 ≠ 0 := by
  unfold ratio
  split
  · exact one_ne_zero
  · exact (Nat.pow_pos (by decide)).ne'

/-- A double's magnitude is the quotient of its ratio. -/
theorem abs_ratio (x : Double) : |x.toRat| = x.ratio.1 / x.ratio.2 := by
  rw [abs_toRat]
  unfold ratio
  split
  · rename_i he
    obtain ⟨n, hn⟩ := Int.eq_ofNat_of_zero_le he
    rw [hn]
    simp
  · rename_i he
    obtain ⟨n, hn⟩ : ∃ n : Nat, x.exponent = -(n : Int) := ⟨(-x.exponent).toNat, by omega⟩
    rw [hn]
    simp [div_eq_mul_inv]

/-- A double below 2^53 is rounded to an integer at most a half away. -/
theorem round?_near (h : |x.toRat| + 1 ≤ 2 ^ 53) :
    ∃ (i : Nat) (y : Double), x.round? = some y ∧ y.toRat = signOf x.negative * i ∧
      |(i : ℚ) - (|x.toRat|)| ≤ 1 / 2 := by
  have hnear := roundHalfUp_near x.ratio.1 x.ratio_ne
  rw [← abs_ratio] at hnear
  have hsmall : roundHalfUp x.ratio.1 x.ratio.2 < 2 ^ 53 := by
    have hlt : (roundHalfUp x.ratio.1 x.ratio.2 : ℚ) < 2 ^ 53 := by linarith [(abs_le.1 hnear).2]
    exact_mod_cast hlt
  obtain ⟨z, hz⟩ := exists_toRat_nat hsmall
  have habs : ((roundHalfUp x.ratio.1 x.ratio.2 : Nat) : ℚ) / (1 : Nat) = |z.toRat| := by
    rw [hz, Nat.cast_one, div_one, Nat.abs_cast]
  obtain ⟨y, hy, hsign, hvalue⟩ := ofRatio?_exact x.negative one_ne_zero habs
  refine ⟨_, y, hy, ?_, hnear⟩
  rw [toRat_signed, hsign, hvalue, hz, Nat.abs_cast]

/-- The double nearest to an integer that is a double is that integer. -/
theorem ofInt?_exact {i : Int} (h : ∃ x : Double, x.toRat = i) :
    ∃ y, ofInt? i = some y ∧ y.toRat = i := by
  obtain ⟨x, hx⟩ := h
  have habs : (i.natAbs : ℚ) / (1 : Nat) = |x.toRat| := by
    rw [hx, Nat.cast_one, div_one, Nat.cast_natAbs, Int.cast_abs]
  obtain ⟨y, hy, hsign, hvalue⟩ := ofRatio?_exact (decide (i < 0)) one_ne_zero habs
  refine ⟨y, hy, ?_⟩
  rw [toRat_signed, hsign, hvalue, hx]
  rcases lt_or_ge i 0 with hi | hi
  · have hi' : (i : ℚ) < 0 := by exact_mod_cast hi
    rw [decide_eq_true hi, abs_of_neg hi']
    simp [signOf]
  · have hi' : (0 : ℚ) ≤ i := by exact_mod_cast hi
    rw [decide_eq_false (not_lt.2 hi), abs_of_nonneg hi']
    simp [signOf]

/-- A double without binary places is rounded to itself. -/
theorem ofRatio?_integer (h : 0 ≤ x.exponent) :
    x.ratio.2 = 1 ∧ ∃ y, ofRatio? x.negative x.ratio.1 1 = some y ∧ y.toRat = x.toRat := by
  have hden : x.ratio.2 = 1 := by
    unfold ratio
    rw [if_pos h]
  have habs : (x.ratio.1 : ℚ) / (1 : Nat) = |x.toRat| := by rw [abs_ratio, hden]
  obtain ⟨y, hy, hsign, hvalue⟩ := ofRatio?_exact x.negative one_ne_zero habs
  refine ⟨hden, y, hy, ?_⟩
  rw [toRat_signed, hsign, hvalue, ← toRat_signed]

theorem floor?_exact (h : 0 ≤ x.exponent) : ∃ y, x.floor? = some y ∧ y.toRat = x.toRat := by
  obtain ⟨hden, hexact⟩ := ofRatio?_integer h
  have hfloor : x.floor? = ofRatio? x.negative
      (if x.negative then (x.ratio.1 + x.ratio.2 - 1) / x.ratio.2 else x.ratio.1 / x.ratio.2) 1 := rfl
  rw [hfloor, hden, Nat.add_sub_cancel, Nat.div_one, ite_self]
  exact hexact

theorem ceil?_exact (h : 0 ≤ x.exponent) : ∃ y, x.ceil? = some y ∧ y.toRat = x.toRat := by
  obtain ⟨hden, hexact⟩ := ofRatio?_integer h
  have hceil : x.ceil? = ofRatio? x.negative
      (if x.negative then x.ratio.1 / x.ratio.2 else (x.ratio.1 + x.ratio.2 - 1) / x.ratio.2) 1 := rfl
  rw [hceil, hden, Nat.add_sub_cancel, Nat.div_one, ite_self]
  exact hexact

end JsonQuery.Double
