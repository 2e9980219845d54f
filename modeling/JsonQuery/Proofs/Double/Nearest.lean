import Mathlib
import JsonQuery.Proofs.Double

/-!
# The nearest double

* `Double.floorLog2_bounds` — the exponent of the leading binary place of a quotient.
* `Double.ofRatio?_near` — every quotient below 2^1023 has a nearest double, and that is near.
* `Double.ofRatio?_exact` — the nearest double of a double's magnitude has that magnitude.
* `Double.exists_toRat` — the numbers of 53 places in the range of exponents are doubles.
-/

namespace JsonQuery.Double

variable {num den : Nat} {x y : Double} {q : ℚ}

/-! ## Binary exponents -/

/-- The comparison by which the exponent is settled is that of the quotient with a power of two. -/
theorem fits_iff (hden : den ≠ 0) (k : Int) :
    (if 0 ≤ k then den * Nat.pow 2 k.toNat ≤ num else den ≤ num * Nat.pow 2 (-k).toNat) ↔
      (2 : ℚ) ^ k ≤ num / den := by
  have hden : (0 : ℚ) < den := by exact_mod_cast Nat.pos_of_ne_zero hden
  rw [le_div_iff₀ hden]
  split
  · rename_i hk
    obtain ⟨n, rfl⟩ := Int.eq_ofNat_of_zero_le hk
    rw [Int.toNat_natCast, zpow_natCast, mul_comm]
    exact_mod_cast Iff.rfl
  · rename_i hk
    obtain ⟨n, rfl⟩ : ∃ n : Nat, k = -(n : Int) := ⟨(-k).toNat, by omega⟩
    rw [neg_neg, Int.toNat_natCast, zpow_neg, zpow_natCast, inv_mul_le_iff₀ (by positivity), mul_comm]
    exact_mod_cast Iff.rfl

/-- The exponent of the leading binary place of a quotient. -/
theorem floorLog2_bounds (hnum : num ≠ 0) (hden : den ≠ 0) :
    (2 : ℚ) ^ floorLog2 num den ≤ num / den ∧ (num : ℚ) / den < 2 ^ (floorLog2 num den + 1) := by
  have hpos : (0 : ℚ) < den := by exact_mod_cast Nat.pos_of_ne_zero hden
  have hnumLow : (2 : ℚ) ^ (num.log2 : Int) ≤ num := by
    rw [zpow_natCast]
    exact_mod_cast Nat.log2_self_le hnum
  have hnumHigh : (num : ℚ) < 2 ^ ((num.log2 : Int) + 1) := by
    have hlt : num < 2 ^ (num.log2 + 1) := Nat.lt_log2_self
    exact_mod_cast hlt
  have hdenLow : (2 : ℚ) ^ (den.log2 : Int) ≤ den := by
    rw [zpow_natCast]
    exact_mod_cast Nat.log2_self_le hden
  have hdenHigh : (den : ℚ) < 2 ^ ((den.log2 : Int) + 1) := by
    have hlt : den < 2 ^ (den.log2 + 1) := Nat.lt_log2_self
    exact_mod_cast hlt
  have hlow : (2 : ℚ) ^ ((num.log2 : Int) - den.log2 - 1) ≤ num / den := by
    rw [le_div_iff₀ hpos]
    calc (2 : ℚ) ^ ((num.log2 : Int) - den.log2 - 1) * den
        ≤ 2 ^ ((num.log2 : Int) - den.log2 - 1) * 2 ^ ((den.log2 : Int) + 1) := by gcongr
      _ = 2 ^ (num.log2 : Int) := by
        rw [← zpow_add₀ two_ne_zero]
        congr 1
        ring
      _ ≤ num := hnumLow
  have hhigh : (num : ℚ) / den < 2 ^ ((num.log2 : Int) - den.log2 + 1) := by
    rw [div_lt_iff₀ hpos]
    calc (num : ℚ) < 2 ^ ((num.log2 : Int) + 1) := hnumHigh
      _ = 2 ^ ((num.log2 : Int) - den.log2 + 1) * 2 ^ (den.log2 : Int) := by
        rw [← zpow_add₀ two_ne_zero]
        congr 1
        ring
      _ ≤ 2 ^ ((num.log2 : Int) - den.log2 + 1) * den := by gcongr
  have hsettled : floorLog2 num den =
      if (2 : ℚ) ^ ((num.log2 : Int) - den.log2) ≤ num / den then (num.log2 : Int) - den.log2
      else (num.log2 : Int) - den.log2 - 1 := by
    unfold floorLog2
    exact if_congr (fits_iff hden _) rfl rfl
  rw [hsettled]
  split
  · rename_i hfits
    exact ⟨hfits, hhigh⟩
  · rename_i hfits
    rw [sub_add_cancel]
    exact ⟨hlow, not_le.1 hfits⟩

/-- A power of two at or below a number that is below another one has a smaller exponent. -/
theorem exponent_lt {j k : Int} (hlow : (2 : ℚ) ^ j ≤ q) (hhigh : q < 2 ^ k) : j < k :=
  (zpow_lt_zpow_iff_right₀ one_lt_two).1 (hlow.trans_lt hhigh)

/-! ## Near results -/

/-- The integer next to a quotient that the remainder points at is at most a half away. -/
theorem near_quotient {r : Nat} (hden : den ≠ 0) (hr : r = num / den ∧ 2 * (num % den) ≤ den ∨
    r = num / den + 1 ∧ den ≤ 2 * (num % den)) : |(r : ℚ) - num / den| ≤ 1 / 2 := by
  have hpos : (0 : ℚ) < den := by exact_mod_cast Nat.pos_of_ne_zero hden
  have hdiv := Nat.div_add_mod num den
  have hmod := Nat.mod_lt num (Nat.pos_of_ne_zero hden)
  have hbounds : 2 * num ≤ 2 * (den * r) + den ∧ 2 * (den * r) ≤ 2 * num + den := by
    rcases hr with ⟨rfl, hr⟩ | ⟨rfl, hr⟩
    · omega
    · rw [Nat.mul_add]
      omega
  have hlow : 2 * (num : ℚ) ≤ 2 * (den * r) + den := by exact_mod_cast hbounds.1
  have hhigh : 2 * ((den : ℚ) * r) ≤ 2 * num + den := by exact_mod_cast hbounds.2
  have hquot : (num : ℚ) / den * den = num := div_mul_cancel₀ _ hpos.ne'
  rw [abs_le]
  constructor <;> nlinarith

theorem roundHalfEven_near (num : Nat) (hden : den ≠ 0) :
    |(roundHalfEven num den : ℚ) - num / den| ≤ 1 / 2 := by
  refine near_quotient hden ?_
  unfold roundHalfEven
  simp only
  split <;> omega

theorem roundHalfUp_near (num : Nat) (hden : den ≠ 0) :
    |(roundHalfUp num den : ℚ) - num / den| ≤ 1 / 2 := by
  refine near_quotient hden ?_
  unfold roundHalfUp
  split <;> omega

/-- A multiple of `2 ^ e` is rounded like a quotient of natural numbers. -/
theorem multiple_scaled (num : Nat) (hden : den ≠ 0) (e : Int) : ∃ num' den' : Nat, den' ≠ 0 ∧
    multiple num den e = roundHalfEven num' den' ∧ (num' : ℚ) / den' = num / den / 2 ^ e := by
  unfold multiple
  split
  · rename_i he
    obtain ⟨n, rfl⟩ := Int.eq_ofNat_of_zero_le he
    refine ⟨num, den * 2 ^ n, by positivity, rfl, ?_⟩
    push_cast
    rw [zpow_natCast, div_div]
  · rename_i he
    obtain ⟨n, rfl⟩ : ∃ n : Nat, e = -(n : Int) := ⟨(-e).toNat, by omega⟩
    refine ⟨num * 2 ^ n, den, hden, by rw [neg_neg, Int.toNat_natCast]; rfl, ?_⟩
    push_cast
    rw [zpow_neg, zpow_natCast, div_inv_eq_mul, div_mul_eq_mul_div]

/-- A rounded multiple is at most half a unit away from the quotient. -/
theorem multiple_near (num : Nat) (hden : den ≠ 0) (e : Int) :
    |(multiple num den e : ℚ) * 2 ^ e - num / den| ≤ 2 ^ e / 2 := by
  have hscaled : |(multiple num den e : ℚ) - num / den / 2 ^ e| ≤ 1 / 2 := by
    obtain ⟨num', den', hden', hround, hvalue⟩ := multiple_scaled num hden e
    rw [hround, ← hvalue]
    exact roundHalfEven_near num' hden'
  have hpos : (0 : ℚ) < 2 ^ e := by positivity
  calc |(multiple num den e : ℚ) * 2 ^ e - num / den|
      = |(multiple num den e : ℚ) - num / den / 2 ^ e| * 2 ^ e := by
        rw [← abs_of_pos hpos, ← abs_mul, abs_of_pos hpos, sub_mul, div_mul_cancel₀ _ hpos.ne']
    _ ≤ 1 / 2 * 2 ^ e := mul_le_mul_of_nonneg_right hscaled hpos.le
    _ = 2 ^ e / 2 := by ring

/-- The rounded multiple at the exponent of the leading 53 places has 53 places, or carries over. -/
theorem multiple_le (hnum : num ≠ 0) (hden : den ≠ 0) {e : Int}
    (he : max (-1074) (floorLog2 num den - 52) = e) :
    multiple num den e ≤ 2 ^ 53 ∧ (2 ^ 52 ≤ multiple num den e ∨ e = -1074) := by
  obtain ⟨hlow, hhigh⟩ := floorLog2_bounds hnum hden
  have hnear := abs_le.1 (multiple_near num hden e)
  have hpos : (0 : ℚ) < 2 ^ e := by positivity
  constructor
  · have htop : (num : ℚ) / den < 2 ^ 53 * 2 ^ e := by
      calc (num : ℚ) / den < 2 ^ (floorLog2 num den + 1) := hhigh
        _ ≤ 2 ^ (53 + e) := zpow_le_zpow_right₀ one_le_two (by omega)
        _ = 2 ^ 53 * 2 ^ e := by
          rw [zpow_add₀ two_ne_zero]
          norm_num
    have hlt : (multiple num den e : ℚ) < 2 ^ 53 + 1 := by
      refine lt_of_mul_lt_mul_right ?_ hpos.le
      linarith
    have hlt : multiple num den e < 2 ^ 53 + 1 := by exact_mod_cast hlt
    omega
  · refine or_iff_not_imp_right.2 fun hleast => ?_
    have hbottom : (2 : ℚ) ^ 52 * 2 ^ e ≤ num / den := by
      calc (2 : ℚ) ^ 52 * 2 ^ e = 2 ^ (floorLog2 num den) := by
            rw [show floorLog2 num den = 52 + e by omega, zpow_add₀ two_ne_zero]
            norm_num
        _ ≤ num / den := hlow
    have hlt : (2 : ℚ) ^ 52 < multiple num den e + 1 := by
      refine lt_of_mul_lt_mul_right ?_ hpos.le
      linarith
    have hlt : 2 ^ 52 < multiple num den e + 1 := by exact_mod_cast hlt
    omega

/-- **Every quotient below 2^1023 has a nearest double**, and it is near. -/
theorem ofRatio?_near (negative : Bool) (hden : den ≠ 0) (h : (num : ℚ) / den < 2 ^ 1023) :
    ∃ y, ofRatio? negative num den = some y ∧ y.negative = negative ∧
      |(|y.toRat|) - num / den| ≤ num / den / 2 ^ 53 + 1 / 2 ^ 1075 := by
  by_cases hnum : num = 0
  · subst hnum
    refine ⟨zero negative, rfl, rfl, ?_⟩
    rw [abs_toRat]
    simp [zero]
  · obtain ⟨hlow, hhigh⟩ := floorLog2_bounds hnum hden
    have hexponent : floorLog2 num den < 1023 := exponent_lt hlow h
    generalize he : max (-1074) (floorLog2 num den - 52) = e
    obtain ⟨hmost, hfull⟩ := multiple_le hnum hden he
    have hunit : (2 : ℚ) ^ e / 2 ≤ num / den / 2 ^ 53 + 1 / 2 ^ 1075 := by
      have hquot : (0 : ℚ) ≤ num / den := by positivity
      rcases Int.le_total (floorLog2 num den - 52) (-1074) with hle | hle
      · obtain rfl : e = -1074 := by omega
        calc (2 : ℚ) ^ (-1074 : Int) / 2 = 0 + 1 / 2 ^ 1075 := by
              rw [zero_add, zpow_neg, zpow_ofNat, pow_succ 2 1074, one_div, mul_inv, div_eq_mul_inv]
          _ ≤ num / den / 2 ^ 53 + 1 / 2 ^ 1075 := by gcongr; positivity
      · calc (2 : ℚ) ^ e / 2 = 2 ^ floorLog2 num den / 2 ^ 53 + 0 := by
              rw [show floorLog2 num den = e + 52 by omega, zpow_add₀ two_ne_zero]
              norm_num
              ring
          _ ≤ num / den / 2 ^ 53 + 1 / 2 ^ 1075 := by gcongr; positivity
    have hnear := (multiple_near num hden e).trans hunit
    rw [ofRatio?_eq hnum he]
    split
    · rename_i hcarry
      have hcanonical : Canonical (2 ^ 52) (e + 1) :=
        ⟨by decide, by omega, by omega, .inl (Nat.le_refl _)⟩
      refine ⟨_, ofParts?_canonical hcanonical, rfl, ?_⟩
      have hvalue : ((2 ^ 52 : Nat) : ℚ) * 2 ^ (e + 1) = (2 ^ 53 : Nat) * 2 ^ e := by
        rw [zpow_add_one₀ two_ne_zero]
        push_cast
        ring
      rw [abs_toRat, hvalue, ← hcarry]
      exact hnear
    · rename_i hcarry
      have hcanonical : Canonical (multiple num den e) e :=
        ⟨Nat.lt_of_le_of_ne hmost hcarry, by omega, by omega, hfull⟩
      refine ⟨_, ofParts?_canonical hcanonical, rfl, ?_⟩
      rw [abs_toRat]
      exact hnear

/-! ## Exact results -/

theorem roundHalfEven_mul {den : Nat} (m : Nat) (hden : den ≠ 0) : roundHalfEven (m * den) den = m := by
  have hpos := Nat.pos_of_ne_zero hden
  unfold roundHalfEven
  simp only [Nat.mul_div_cancel _ hpos, Nat.mul_mod_left]
  rw [if_neg (by omega)]

theorem multiple_exact {m : Nat} {e : Int} (hden : den ≠ 0) (h : (num : ℚ) / den = m * 2 ^ e) :
    multiple num den e = m := by
  have hpos : (0 : ℚ) < den := by exact_mod_cast Nat.pos_of_ne_zero hden
  rw [div_eq_iff hpos.ne'] at h
  unfold multiple
  split
  · rename_i he
    obtain ⟨n, rfl⟩ := Int.eq_ofNat_of_zero_le he
    have hnum : num = m * (den * 2 ^ n) := by
      rw [zpow_natCast] at h
      have hcast : (num : ℚ) = m * (den * 2 ^ n) := by rw [h]; ring
      exact_mod_cast hcast
    rw [hnum]
    exact roundHalfEven_mul m (by positivity)
  · rename_i he
    obtain ⟨n, rfl⟩ : ∃ n : Nat, e = -(n : Int) := ⟨(-e).toNat, by omega⟩
    have hnum : num * 2 ^ n = m * den := by
      rw [zpow_neg, zpow_natCast] at h
      have hcast : (num : ℚ) * 2 ^ n = m * den := by rw [h]; field_simp
      exact_mod_cast hcast
    rw [neg_neg, Int.toNat_natCast]
    exact (congrArg (roundHalfEven · den) hnum).trans (roundHalfEven_mul m hden)

/-- A canonical exponent is the least one or that of the leading 53 places. -/
theorem exponent_eq (hnum : num ≠ 0) (hden : den ≠ 0) (h : (num : ℚ) / den = |x.toRat|) :
    max (-1074) (floorLog2 num den - 52) = x.exponent := by
  obtain ⟨hlow, hhigh⟩ := floorLog2_bounds hnum hden
  obtain ⟨hbound, hleast, -, hfull⟩ := x.canonical
  have hbound : (x.mantissa : ℚ) < 2 ^ (53 : Int) := by exact_mod_cast hbound
  rw [h, abs_toRat] at hlow hhigh
  have hupper : (x.mantissa : ℚ) * 2 ^ x.exponent < 2 ^ (53 + x.exponent) := by
    rw [zpow_add₀ two_ne_zero]
    exact mul_lt_mul_of_pos_right hbound (by positivity)
  have hlt := exponent_lt hlow hupper
  rcases hfull with hfull | hfull
  · have hfull : (2 : ℚ) ^ (52 : Int) ≤ x.mantissa := by exact_mod_cast hfull
    have hlower : (2 : ℚ) ^ (52 + x.exponent) ≤ x.mantissa * 2 ^ x.exponent := by
      rw [zpow_add₀ two_ne_zero]
      exact mul_le_mul_of_nonneg_right hfull (by positivity)
    have hgt := exponent_lt hlower hhigh
    omega
  · omega

/-- **The nearest double of a double's magnitude has that magnitude.** -/
theorem ofRatio?_exact (negative : Bool) (hden : den ≠ 0) (h : (num : ℚ) / den = |x.toRat|) :
    ∃ y, ofRatio? negative num den = some y ∧ y.negative = negative ∧ |y.toRat| = |x.toRat| := by
  by_cases hnum : num = 0
  · subst hnum
    refine ⟨zero negative, rfl, rfl, ?_⟩
    rw [← h, abs_toRat]
    simp [zero]
  · have hmultiple : multiple num den x.exponent = x.mantissa :=
      multiple_exact hden (h.trans (abs_toRat x))
    have hbound : x.mantissa < 2 ^ 53 := x.canonical.1
    refine ⟨{ x with negative := negative }, ?_, rfl, ?_⟩
    · rw [ofRatio?_eq hnum (exponent_eq hnum hden h), hmultiple, if_neg (Nat.ne_of_lt hbound),
        ofParts?_canonical x.canonical]
    · rw [abs_toRat, abs_toRat]

/-- Every product of a number of 53 places and a power of two that is not too small is a double. -/
theorem exists_toRat (n : Nat) {m : Nat} (hm : m < 2 ^ 53) (hn : n ≤ 2045) :
    ∃ x : Double, x.toRat = m * 2 ^ ((n : Int) - 1074) := by
  induction n generalizing m with
  | zero =>
    refine ⟨⟨false, m, -1074, hm, by omega, by omega, .inr rfl⟩, ?_⟩
    simp [toRat, twoPow_eq]
  | succ n ih =>
    by_cases hfull : 2 ^ 52 ≤ m
    · refine ⟨⟨false, m, (n + 1 : Nat) - 1074, hm, by omega, by omega, .inl hfull⟩, ?_⟩
      simp [toRat, twoPow_eq]
    · obtain ⟨x, hx⟩ := ih (m := m * 2) (by omega) (by omega)
      refine ⟨x, hx.trans ?_⟩
      have hexp : ((n + 1 : Nat) : Int) - 1074 = n - 1074 + 1 := by omega
      rw [hexp, zpow_add_one₀ two_ne_zero]
      push_cast
      ring

theorem exists_toRat_nat {m : Nat} (hm : m < 2 ^ 53) : ∃ x : Double, x.toRat = m := by
  simpa using exists_toRat 1074 hm (by omega)

theorem exists_toRat_div {m k : Nat} (hm : m < 2 ^ 53) (hk : k ≤ 1074) :
    ∃ x : Double, x.toRat = m / 2 ^ k := by
  obtain ⟨x, hx⟩ := exists_toRat (1074 - k) hm (by omega)
  refine ⟨x, hx.trans ?_⟩
  rw [show ((1074 - k : Nat) : Int) - 1074 = -(k : Int) by omega, zpow_neg, zpow_natCast, div_eq_mul_inv]

end JsonQuery.Double
