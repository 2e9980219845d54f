import Mathlib
import JsonQuery.Proofs.Decimal.View
import JsonQuery.Proofs.Double.Nearest

/-!
# Rounded decimals

A sum or a quotient is rounded to the most places for which 96 bits have room.

* `Decimal.Representable` — the values that decimals have.
* `Decimal.fit?_ok`, `Decimal.fit?_eq_none` — the places that a quotient keeps, and when not even its integer
  part has room.
* `Decimal.add?_exact`, `Decimal.add?_near`, `Decimal.add?_eq_none` — a sum is exact where it is representable,
  near otherwise, and none from half a unit below 2^96 on.
* `Decimal.divNat?_exact` — a quotient that is an integer is exact.
-/

namespace JsonQuery.Decimal

open Double (roundHalfEven signOf)

variable {negative : Bool} {num num' den s : Nat} {n : Int} {d x y z : Decimal}

/-- A value that some decimal has. -/
def Representable (q : ℚ) : Prop := ∃ d : Decimal, d.toRat = q

/-- The magnitude of a decimal. -/
theorem abs_toRat (d : Decimal) : |d.toRat| = valueOf (d.mantissa, d.scale) := by
  rw [← toRat_abs]
  exact toRat_of_nonneg (d := d.abs) rfl

theorem valueOf_cast (m k : Nat) : (m : ℚ) / (10 ^ k : Nat) = valueOf (m, k) := by
  unfold valueOf
  push_cast
  rfl

/-! ## Rounding -/

theorem roundHalfEven_mono (h : num ≤ num') (den : Nat) : roundHalfEven num den ≤ roundHalfEven num' den := by
  have hdiv : num / den ≤ num' / den := Nat.div_le_div_right h
  rcases hdiv.lt_or_eq with hlt | heq
  · have hupper := Double.roundHalfEven_le num den
    have hlower := Double.div_le_roundHalfEven num' den
    omega
  · have hmod := Nat.div_add_mod num den
    have hmod' := Nat.div_add_mod num' den
    rw [← heq] at hmod'
    unfold roundHalfEven
    simp only [← heq]
    split <;> split <;> omega

/-- An even number is reached from half a unit below it on. -/
theorem le_roundHalfEven_iff {m : Nat} (hden : den ≠ 0) (heven : m % 2 = 0) :
    m ≤ roundHalfEven num den ↔ (m : ℚ) - 1 / 2 ≤ num / den := by
  have hpos : (0 : ℚ) < den := by exact_mod_cast Nat.pos_of_ne_zero hden
  have hcast : (m : ℚ) - 1 / 2 ≤ num / den ↔ 2 * (m * den) ≤ 2 * num + den := by
    rw [le_div_iff₀ hpos, ← Nat.cast_le (α := ℚ)]
    push_cast
    constructor <;> intro h <;> linarith
  have hmod : num / den * den + num % den = num := Nat.div_add_mod' num den
  have hlt := Nat.mod_lt num (Nat.pos_of_ne_zero hden)
  rw [hcast]
  unfold roundHalfEven
  simp only
  generalize num / den = q at *
  generalize num % den = r at *
  rcases lt_trichotomy m (q + 1) with hm | rfl | hm
  · -- the quotient has reached the number already
    have hle : m * den ≤ q * den := Nat.mul_le_mul_right den (by omega)
    refine iff_of_true ?_ (by omega)
    split <;> omega
  · -- the quotient is next to the number, and odd
    have hnext : (q + 1) * den = q * den + den := Nat.add_one_mul q den
    split <;> omega
  · have hge : (q + 2) * den ≤ m * den := Nat.mul_le_mul_right den hm
    have hnext : (q + 2) * den = q * den + 2 * den := Nat.add_mul q 2 den
    refine iff_of_false ?_ (by omega)
    split <;> omega

/-! ## The most places -/

/-- A quotient keeps the most places for which its mantissa has room. -/
theorem fit?_ok (hs : s ≤ 28) (h : fit? negative num den s = some d) :
    d.toRat = signOf negative * valueOf (d.mantissa, d.scale) ∧ d.scale ≤ s ∧
      d.mantissa = roundHalfEven (num * 10 ^ d.scale) den ∧
      (d.scale < s → 2 ^ 96 ≤ roundHalfEven (num * 10 ^ (d.scale + 1)) den) := by
  induction s with
  | zero =>
    obtain ⟨hmantissa, hscale⟩ := parts_of_ofParts? h
    have hvalue := toRat_of_parts h
    rw [← hmantissa, ← hscale] at hvalue
    rw [hscale] at hvalue ⊢
    rw [pow_zero, mul_one]
    exact ⟨hvalue, le_rfl, hmantissa, fun h => absurd h (lt_irrefl 0)⟩
  | succ s ih =>
    rw [fit?] at h
    split at h
    · rename_i hroom
      cases h
      obtain ⟨hmantissa, hscale⟩ := parts_of_ofParts? hroom
      have hvalue := toRat_of_parts hroom
      rw [← hmantissa, ← hscale] at hvalue
      refine ⟨hvalue, hscale.le, ?_, by omega⟩
      rw [hscale]
      exact hmantissa
    · rename_i hroom
      obtain ⟨hvalue, hscale, hmantissa, hmost⟩ := ih (by omega) h
      refine ⟨hvalue, by omega, hmantissa, fun _ => ?_⟩
      rcases hscale.lt_or_eq with hlt | heq
      · exact hmost hlt
      · have hover := ofParts?_eq_none.1 hroom
        rw [heq]
        exact not_lt.1 fun hlt => hover ⟨hlt, hs⟩

/-- Exactly the quotients from half a unit below 2^96 on have no decimal. -/
theorem fit?_eq_none (hs : s ≤ 28) (hden : den ≠ 0) :
    fit? negative num den s = none ↔ 2 ^ 96 - 1 / 2 ≤ (num : ℚ) / den := by
  have hlimit : 2 ^ 96 ≤ roundHalfEven num den ↔ 2 ^ 96 - 1 / 2 ≤ (num : ℚ) / den := by
    exact_mod_cast le_roundHalfEven_iff (m := 2 ^ 96) hden (by norm_num)
  rw [← hlimit]
  induction s with
  | zero =>
    rw [fit?, ofParts?_eq_none]
    omega
  | succ s ih =>
    rw [fit?]
    split
    · rename_i d hroom
      obtain ⟨hmantissa, -⟩ := parts_of_ofParts? hroom
      have hrange : d.mantissa < 2 ^ 96 := d.inRange.1
      -- with more places the mantissa is greater, so what has room with them has room without
      have hmore : roundHalfEven num den ≤ roundHalfEven (num * 10 ^ (s + 1)) den :=
        roundHalfEven_mono (Nat.le_mul_of_pos_right num (by positivity)) den
      have hmantissa : d.mantissa = roundHalfEven (num * 10 ^ (s + 1)) den := hmantissa
      exact iff_of_false nofun (by omega)
    · exact ih (by omega)

/-- What is kept is at most half a unit of the last place away. -/
theorem fit?_half (hs : s ≤ 28) (hden : den ≠ 0) (h : fit? negative num den s = some d) :
    |valueOf (d.mantissa, d.scale) - num / den| ≤ 1 / 2 / 10 ^ d.scale := by
  obtain ⟨-, -, hmantissa, -⟩ := fit?_ok hs h
  have hten : (0 : ℚ) < 10 ^ d.scale := by positivity
  have hnear := Double.roundHalfEven_near (num * 10 ^ d.scale) hden
  rw [← hmantissa] at hnear
  have hscaled : (d.mantissa : ℚ) - (num * 10 ^ d.scale : Nat) / den =
      (valueOf (d.mantissa, d.scale) - num / den) * 10 ^ d.scale := by
    rw [sub_mul, valueOf_mul, div_mul_eq_mul_div]
    push_cast
    rfl
  rw [hscaled, abs_mul, abs_of_pos hten] at hnear
  rwa [le_div_iff₀ hten]

/-- A place is dropped only where there is no room for it. -/
theorem fit?_full (hs : s ≤ 28) (hden : den ≠ 0) (h : fit? negative num den s = some d) (hlt : d.scale < s) :
    (2 ^ 96 - 1 / 2) / 10 ^ (d.scale + 1) ≤ (num : ℚ) / den := by
  obtain ⟨-, -, -, hmost⟩ := fit?_ok hs h
  have hten : (0 : ℚ) < 10 ^ (d.scale + 1) := by positivity
  have hover : 2 ^ 96 - 1 / 2 ≤ ((num * 10 ^ (d.scale + 1) : Nat) : ℚ) / den := by
    exact_mod_cast (le_roundHalfEven_iff (m := 2 ^ 96) hden (by norm_num)).1 (hmost hlt)
  rw [div_le_iff₀ hten, div_mul_eq_mul_div]
  exact_mod_cast hover

/-- A quotient of no more places than are kept is kept exactly. -/
theorem fit?_kept {m k : Nat} (hs : s ≤ 28) (hden : den ≠ 0) (h : fit? negative num den s = some d)
    (hk : k ≤ d.scale) (hvalue : (num : ℚ) / den = valueOf (m, k)) :
    valueOf (d.mantissa, d.scale) = num / den := by
  obtain ⟨-, -, hmantissa, -⟩ := fit?_ok hs h
  have hpos : (den : ℚ) ≠ 0 := by exact_mod_cast hden
  have hscaled : num * 10 ^ d.scale = m * 10 ^ (d.scale - k) * den := by
    obtain ⟨j, hj⟩ := Nat.exists_eq_add_of_le hk
    rw [hj, Nat.add_sub_cancel_left]
    unfold valueOf at hvalue
    rw [div_eq_div_iff hpos (by positivity)] at hvalue
    have hcast : (num : ℚ) * 10 ^ (k + j) = m * 10 ^ j * den := by
      rw [pow_add, ← mul_assoc, hvalue]
      ring
    exact_mod_cast hcast
  rw [hscaled, Double.roundHalfEven_mul _ hden] at hmantissa
  rw [hvalue, hmantissa]
  unfold valueOf
  rw [div_eq_div_iff (by positivity) (by positivity)]
  push_cast
  rw [mul_assoc, ← pow_add, Nat.sub_add_cancel hk]

/-- A quotient of no more places than are asked for is exact where it is representable. -/
theorem fit?_exact (negative : Bool) {m k : Nat} (hs : s ≤ 28) (hden : den ≠ 0) (hm : m < 2 ^ 96) (hk : k ≤ s)
    (hvalue : (num : ℚ) / den = valueOf (m, k)) :
    ∃ d, fit? negative num den s = some d ∧ valueOf (d.mantissa, d.scale) = num / den := by
  have hmantissa : (m : ℚ) ≤ 2 ^ 96 - 1 := by
    rw [le_sub_iff_add_le]
    exact_mod_cast hm
  cases h : fit? negative num den s with
  | none =>
    have hlarge := (fit?_eq_none hs hden).1 h
    rw [hvalue] at hlarge
    have hle := valueOf_le m k
    linarith
  | some d =>
    refine ⟨d, rfl, fit?_kept hs hden h ?_ hvalue⟩
    by_contra hscale
    -- the first place that is dropped would be one of the quotient, which has room for all of its own
    have hfull := fit?_full hs hden h (by omega)
    rw [hvalue, div_le_iff₀ (by positivity)] at hfull
    have hplaces : valueOf (m, k) * 10 ^ (d.scale + 1) ≤ m := by
      rw [← valueOf_mul m k]
      exact mul_le_mul_of_nonneg_left (pow_le_pow_right₀ (by norm_num) (by omega)) (valueOf_nonneg m k)
    linarith

/-- A quotient of as many places as are asked for is kept to 93 bits. -/
theorem fit?_near {m : Nat} (hs : s ≤ 28) (hden : den ≠ 0) (hvalue : (num : ℚ) / den = valueOf (m, s))
    (h : fit? negative num den s = some d) :
    |valueOf (d.mantissa, d.scale) - num / den| ≤ num / den / 2 ^ 93 := by
  obtain ⟨-, hscale, -, -⟩ := fit?_ok hs h
  rcases hscale.lt_or_eq with hlt | heq
  · have hhalf := fit?_half hs hden h
    have hfull := fit?_full hs hden h hlt
    have hunit : 1 / 2 / 10 ^ d.scale ≤ (2 ^ 96 - 1 / 2) / 10 ^ (d.scale + 1) / (2 : ℚ) ^ 93 := by
      have hten : (0 : ℚ) < 10 ^ d.scale := by positivity
      rw [pow_succ (10 : ℚ), div_div, div_div, div_le_div_iff₀ (by positivity) (by positivity)]
      linarith
    calc |valueOf (d.mantissa, d.scale) - num / den| ≤ 1 / 2 / 10 ^ d.scale := hhalf
      _ ≤ (2 ^ 96 - 1 / 2) / 10 ^ (d.scale + 1) / 2 ^ 93 := hunit
      _ ≤ num / den / 2 ^ 93 := div_le_div_of_nonneg_right hfull (by positivity)
  · rw [fit?_kept hs hden h heq.ge hvalue, sub_self, abs_zero]
    positivity

/-! ## Sums -/

/-- The magnitude of an integer quotient with its sign. -/
theorem div_eq_signOf (n : Int) (den : Nat) : (n : ℚ) / den = signOf (decide (n < 0)) * (n.natAbs / den) := by
  rw [Nat.cast_natAbs, Int.cast_abs]
  unfold signOf
  rcases lt_or_ge n 0 with hneg | hpos
  · have hcast : (n : ℚ) < 0 := by exact_mod_cast hneg
    rw [if_pos (by simpa using hneg), abs_of_neg hcast]
    ring
  · have hcast : (0 : ℚ) ≤ n := by exact_mod_cast hpos
    rw [if_neg (by simpa using hpos), abs_of_nonneg hcast, one_mul]

/-- The exact sum as a quotient of integers, of which the sum is the rounding. -/
theorem add?_eq (x y : Decimal) : ∃ n : Int,
    x.toRat + y.toRat = n / (10 ^ max x.scale y.scale : Nat) ∧
    x.add? y = fit? (n < 0) n.natAbs (10 ^ max x.scale y.scale) (max x.scale y.scale) := by
  refine ⟨x.signed * 10 ^ (max x.scale y.scale - x.scale) + y.signed * 10 ^ (max x.scale y.scale - y.scale),
    ?_, rfl⟩
  have hx : (10 : ℚ) ^ max x.scale y.scale = 10 ^ x.scale * 10 ^ (max x.scale y.scale - x.scale) := by
    rw [← pow_add, Nat.add_sub_cancel' (Nat.le_max_left _ _)]
  have hy : (10 : ℚ) ^ max x.scale y.scale = 10 ^ y.scale * 10 ^ (max x.scale y.scale - y.scale) := by
    rw [← pow_add, Nat.add_sub_cancel' (Nat.le_max_right _ _)]
  rw [toRat_eq, toRat_eq]
  push_cast
  rw [add_div]
  congr 1
  · rw [hx, mul_div_mul_right _ _ (by positivity)]
  · rw [hy, mul_div_mul_right _ _ (by positivity)]

theorem max_scale_le (x y : Decimal) : max x.scale y.scale ≤ 28 := by
  have := x.inRange
  have := y.inRange
  omega

/-- The magnitude of the exact sum. -/
theorem abs_add_eq (hn : x.toRat + y.toRat = n / (10 ^ s : Nat)) :
    (n.natAbs : ℚ) / (10 ^ s : Nat) = |x.toRat + y.toRat| := by
  rw [hn, div_eq_signOf, abs_mul, Double.abs_signOf, one_mul, abs_of_nonneg (by positivity)]

/-- **A sum is none exactly from half a unit below 2^96 on.** -/
theorem add?_eq_none : x.add? y = none ↔ 2 ^ 96 - 1 / 2 ≤ |x.toRat + y.toRat| := by
  obtain ⟨n, hn, hadd⟩ := add?_eq x y
  rw [hadd, fit?_eq_none (max_scale_le x y) (by positivity), abs_add_eq hn]

/-- **A sum is right to 93 bits.** -/
theorem add?_near (h : x.add? y = some z) :
    |z.toRat - (x.toRat + y.toRat)| ≤ |x.toRat + y.toRat| / 2 ^ 93 := by
  obtain ⟨n, hn, hadd⟩ := add?_eq x y
  have hs := max_scale_le x y
  rw [hadd] at h
  have hnear := fit?_near hs (by positivity) (valueOf_cast _ _) h
  rw [← abs_add_eq hn, hn, div_eq_signOf, (fit?_ok hs h).1, ← mul_sub, abs_mul, Double.abs_signOf, one_mul]
  exact hnear

/-- **A sum that is representable is exact.** -/
theorem add?_exact (h : Representable (x.toRat + y.toRat)) :
    ∃ z, x.add? y = some z ∧ z.toRat = x.toRat + y.toRat := by
  obtain ⟨d, hd⟩ := h
  obtain ⟨n, hn, hadd⟩ := add?_eq x y
  have hs := max_scale_le x y
  have hquot := abs_add_eq hn
  rw [← hd, abs_toRat] at hquot
  obtain ⟨m, k, hm, hk, hvalue⟩ : ∃ m k, m < 2 ^ 96 ∧ k ≤ max x.scale y.scale ∧
      (n.natAbs : ℚ) / (10 ^ max x.scale y.scale : Nat) = valueOf (m, k) := by
    by_cases hk : d.scale ≤ max x.scale y.scale
    · exact ⟨d.mantissa, d.scale, d.inRange.1, hk, hquot⟩
    · -- with fewer places the mantissa is smaller
      have hle : n.natAbs ≤ d.mantissa := by
        have hcast : (n.natAbs : ℚ) ≤ d.mantissa := by
          rw [← valueOf_mul n.natAbs (max x.scale y.scale), ← valueOf_mul d.mantissa d.scale, ← valueOf_cast,
            hquot]
          exact mul_le_mul_of_nonneg_left (pow_le_pow_right₀ (by norm_num) (by omega)) (valueOf_nonneg _ _)
        exact_mod_cast hcast
      exact ⟨n.natAbs, max x.scale y.scale, lt_of_le_of_lt hle d.inRange.1, le_rfl, valueOf_cast _ _⟩
  obtain ⟨z, hz, hkept⟩ := fit?_exact (decide (n < 0)) hs (by positivity) hm hk hvalue
  refine ⟨z, hadd.trans hz, ?_⟩
  rw [(fit?_ok hs hz).1, hkept, hn, div_eq_signOf]

/-! ## Quotients -/

/-- A quotient by a count that is not zero has room. -/
theorem divNat?_ne_none {c : Nat} (hc : c ≠ 0) : x.divNat? c ≠ none := by
  intro h
  have hfit : fit? x.negative x.mantissa (10 ^ x.scale * c) 28 = none := (if_neg hc).symm.trans h
  have hlarge := (fit?_eq_none le_rfl (by positivity)).1 hfit
  have hmantissa : (x.mantissa : ℚ) + 1 ≤ 2 ^ 96 := by exact_mod_cast x.inRange.1
  have hden : (1 : ℚ) ≤ (10 ^ x.scale * c : Nat) := by
    exact_mod_cast Nat.one_le_iff_ne_zero.2 (show 10 ^ x.scale * c ≠ 0 by positivity)
  have hquot := div_le_self (Nat.cast_nonneg (α := ℚ) x.mantissa) hden
  linarith

/-- **A quotient that is representable is exact.** -/
theorem divNat?_exact {c : Nat} (hc : c ≠ 0) (h : Representable (x.toRat / c)) :
    ∃ z, x.divNat? c = some z ∧ z.toRat = x.toRat / c := by
  obtain ⟨d, hd⟩ := h
  have hquot : (x.mantissa : ℚ) / (10 ^ x.scale * c : Nat) = |x.toRat / c| := by
    rw [abs_div, abs_toRat, Nat.abs_cast, ← valueOf_cast]
    push_cast
    rw [div_div]
  have hvalue : (x.mantissa : ℚ) / (10 ^ x.scale * c : Nat) = valueOf (d.mantissa, d.scale) := by
    rw [hquot, ← hd, abs_toRat]
  have hden : 10 ^ x.scale * c ≠ 0 := by positivity
  obtain ⟨z, hz, hkept⟩ := fit?_exact x.negative le_rfl hden d.inRange.1 d.inRange.2 hvalue
  refine ⟨z, (if_neg hc).trans hz, ?_⟩
  rw [(fit?_ok le_rfl hz).1, hkept, hquot, abs_div, abs_toRat, Nat.abs_cast, ← mul_div_assoc, ← toRat_signed]

end JsonQuery.Decimal
