import Mathlib
import JsonQuery.Proofs.Double.Arithmetic

/-!
# The nearest double is the nearest

* `Double.Closest` — no double is closer to a rational, and one that is just as close has an odd mantissa.
* `Double.multiple_closest` — a rounded multiple is the closest one.
* `Double.ofRatio?_closest` — the nearest double of a quotient is the closest double to it.
-/

namespace JsonQuery.Double

variable {num den : Nat} {x y : Double} {q : ℚ} {e : Int}

/-- No double is closer to a rational, and where another one is just as close, this is the even one. -/
structure Closest (x : Double) (q : ℚ) : Prop where
  closest : ∀ y : Double, |x.toRat - q| ≤ |y.toRat - q|
  even : ∀ y : Double, |y.toRat - q| = |x.toRat - q| → y.toRat ≠ x.toRat → x.mantissa % 2 = 0

/-! ## Multiples -/

/-- A quotient in the middle between two numbers is rounded to the even one. -/
theorem roundHalfEven_tie (hden : den ≠ 0) (h : |(roundHalfEven num den : ℚ) - num / den| = 1 / 2) :
    roundHalfEven num den % 2 = 0 := by
  have hpos : (0 : ℚ) < den := by exact_mod_cast Nat.pos_of_ne_zero hden
  have hlt : ((num % den : Nat) : ℚ) / den < 1 := by
    rw [div_lt_one hpos]
    exact_mod_cast Nat.mod_lt num (Nat.pos_of_ne_zero hden)
  have hquot : (num : ℚ) / den = (num / den : Nat) + (num % den : Nat) / den := by
    rw [div_eq_iff hpos.ne', add_mul, div_mul_cancel₀ _ hpos.ne']
    exact_mod_cast (Nat.div_add_mod' num den).symm
  have hhalf : ((num % den : Nat) : ℚ) / den = 1 / 2 := by
    have hupper := roundHalfEven_le num den
    have hlower := div_le_roundHalfEven num den
    rcases (show roundHalfEven num den = num / den ∨ roundHalfEven num den = num / den + 1 by omega) with heq | heq
    · rw [heq, hquot, sub_add_cancel_left, abs_neg, abs_of_nonneg (by positivity)] at h
      exact h
    · rw [heq, hquot, Nat.cast_add_one, add_sub_add_left_eq_sub, abs_of_pos (by linarith)] at h
      linarith
  have htie : 2 * (num % den) = den := by
    rw [div_eq_div_iff hpos.ne' two_ne_zero, one_mul, mul_comm] at hhalf
    exact_mod_cast hhalf
  unfold roundHalfEven
  simp only
  split <;> omega

/-- A rounded multiple is the closest one, and even where another one is just as close. -/
theorem multiple_closest (num : Nat) (hden : den ≠ 0) (e j : Int) :
    |(multiple num den e : ℚ) * 2 ^ e - num / den| ≤ |j * (2 : ℚ) ^ e - num / den| ∧
    (|j * (2 : ℚ) ^ e - num / den| = |(multiple num den e : ℚ) * 2 ^ e - num / den| → j ≠ multiple num den e →
      multiple num den e % 2 = 0) := by
  have hunit : (0 : ℚ) < 2 ^ e := by positivity
  have hnear := multiple_near num hden e
  by_cases hj : j = multiple num den e
  · rw [hj, Int.cast_natCast]
    exact ⟨le_rfl, fun _ hne => absurd rfl hne⟩
  · -- any other multiple is at least one unit away from this one
    have hstep : (2 : ℚ) ^ e ≤ |j * (2 : ℚ) ^ e - num / den| + |(multiple num den e : ℚ) * 2 ^ e - num / den| := by
      have hone : (1 : ℚ) ≤ |(j : ℚ) - multiple num den e| := by
        have hsub : 1 ≤ |j - multiple num den e| := Int.one_le_abs (sub_ne_zero.2 hj)
        exact_mod_cast hsub
      calc (2 : ℚ) ^ e ≤ |(j : ℚ) - multiple num den e| * 2 ^ e := le_mul_of_one_le_left hunit.le hone
        _ = |j * (2 : ℚ) ^ e - num / den - ((multiple num den e : ℚ) * 2 ^ e - num / den)| := by
          rw [sub_sub_sub_cancel_right, ← sub_mul, abs_mul, abs_of_pos hunit]
        _ ≤ _ := abs_sub _ _
    refine ⟨by linarith, fun htie _ => ?_⟩
    obtain ⟨num', den', hden', hround, hvalue⟩ := multiple_scaled num hden e
    rw [hround]
    refine roundHalfEven_tie hden' ?_
    rw [hvalue, ← hround]
    refine mul_right_cancel₀ hunit.ne' ?_
    rw [← abs_of_pos hunit, ← abs_mul, abs_of_pos hunit, sub_mul, div_mul_cancel₀ _ hunit.ne']
    linarith

/-! ## Doubles -/

theorem signOf_mul_self (negative : Bool) : signOf negative * signOf negative = 1 := by
  cases negative <;> norm_num [signOf]

theorem signOf_eq (negative : Bool) : signOf negative = ((if negative then -1 else 1 : Int) : ℚ) := by
  cases negative <;> simp [signOf]

/-- Distances do not depend on the sign. -/
theorem abs_sub_signOf (negative : Bool) (p q : ℚ) : |p - signOf negative * q| = |signOf negative * p - q| := by
  calc |p - signOf negative * q| = |signOf negative * (p - signOf negative * q)| := by
        rw [abs_mul, abs_signOf, one_mul]
    _ = |signOf negative * p - q| := by rw [mul_sub, ← mul_assoc, signOf_mul_self, one_mul]

/-- A double is a multiple of each power of two up to its own, and below the numbers of 53 places with one beyond
it. -/
theorem multiple_or_below (y : Double) (negative : Bool) (e : Int) :
    (∃ j : Int, signOf negative * y.toRat = j * (2 : ℚ) ^ e) ∨
      e ≠ -1074 ∧ signOf negative * y.toRat < (2 ^ 52 : Int) * (2 : ℚ) ^ e := by
  obtain ⟨hbound, hleast, -⟩ := y.canonical
  rcases le_or_gt e y.exponent with he | he
  · left
    obtain ⟨n, hn⟩ := Int.le.dest he
    refine ⟨(if negative then -1 else 1) * (if y.negative then -1 else 1) * (y.mantissa * 2 ^ n : Nat), ?_⟩
    rw [toRat_signed, abs_toRat, ← hn, zpow_add₀ two_ne_zero, zpow_natCast, signOf_eq, signOf_eq]
    push_cast
    ring
  · right
    refine ⟨by omega, ?_⟩
    have hmantissa : (y.mantissa : ℚ) < 2 ^ (53 : Int) := by exact_mod_cast hbound
    calc signOf negative * y.toRat ≤ |signOf negative * y.toRat| := le_abs_self _
      _ = y.mantissa * 2 ^ y.exponent := by rw [abs_mul, abs_signOf, one_mul, abs_toRat]
      _ < 2 ^ (53 : Int) * 2 ^ y.exponent := mul_lt_mul_of_pos_right hmantissa (by positivity)
      _ ≤ 2 ^ (52 : Int) * 2 ^ e := by
        rw [← zpow_add₀ two_ne_zero, ← zpow_add₀ two_ne_zero]
        exact zpow_le_zpow_right₀ one_le_two (by omega)
      _ = (2 ^ 52 : Int) * 2 ^ e := by
        push_cast
        rfl

theorem eq_of_ofParts? {negative : Bool} {m : Nat} (h : ofParts? negative m e = some x) :
    x.negative = negative ∧ x.mantissa = m ∧ x.exponent = e := by
  unfold ofParts? at h
  split at h
  · cases h
    exact ⟨rfl, rfl, rfl⟩
  · cases h

/-- The nearest double is the rounded multiple, with the parity of its mantissa. -/
theorem ofRatio?_parts {negative : Bool} (hnum : num ≠ 0) (he : max (-1074) (floorLog2 num den - 52) = e)
    (h : ofRatio? negative num den = some x) : x.negative = negative ∧ |x.toRat| = multiple num den e * 2 ^ e ∧
      (multiple num den e % 2 = 0 → x.mantissa % 2 = 0) := by
  rw [ofRatio?_eq hnum he] at h
  split at h
  · rename_i hcarry
    obtain ⟨hsign, hmantissa, hexponent⟩ := eq_of_ofParts? h
    refine ⟨hsign, ?_, fun _ => by rw [hmantissa]; norm_num⟩
    rw [abs_toRat, hmantissa, hexponent, hcarry, zpow_add_one₀ two_ne_zero]
    push_cast
    ring
  · obtain ⟨hsign, hmantissa, hexponent⟩ := eq_of_ofParts? h
    exact ⟨hsign, by rw [abs_toRat, hmantissa, hexponent], fun heven => by rwa [hmantissa]⟩

/-- **The nearest double of a quotient is the closest double to it.** -/
theorem ofRatio?_closest {negative : Bool} (hden : den ≠ 0) (h : ofRatio? negative num den = some x) :
    x.Closest (signOf negative * (num / den)) := by
  by_cases hnum : num = 0
  · subst hnum
    cases h
    have hdist : |(zero negative).toRat - signOf negative * ((0 : Nat) / den)| = 0 := by simp
    exact ⟨fun y => hdist.le.trans (abs_nonneg _), fun _ _ _ => rfl⟩
  · obtain ⟨e, he⟩ : ∃ e, max (-1074) (floorLog2 num den - 52) = e := ⟨_, rfl⟩
    obtain ⟨hsign, habs, heven⟩ := ofRatio?_parts hnum he h
    have hx : signOf negative * x.toRat = multiple num den e * 2 ^ e := by
      rw [toRat_signed, hsign, ← mul_assoc, signOf_mul_self, one_mul, habs]
    -- a double that is no multiple of the unit is on the other side of the least number of 53 places
    have hbelow : ∀ y : Double, e ≠ -1074 → signOf negative * y.toRat < (2 ^ 52 : Int) * (2 : ℚ) ^ e →
        |(multiple num den e : ℚ) * 2 ^ e - num / den| < |signOf negative * y.toRat - num / den| := by
      intro y hleast hlt
      have hfull : ((2 ^ 52 : Int) : ℚ) * 2 ^ e ≤ num / den := by
        calc ((2 ^ 52 : Int) : ℚ) * 2 ^ e = 2 ^ floorLog2 num den := by
              rw [show floorLog2 num den = 52 + e by omega, zpow_add₀ two_ne_zero]
              norm_num
          _ ≤ num / den := (floorLog2_bounds hnum hden).1
      calc |(multiple num den e : ℚ) * 2 ^ e - num / den|
          ≤ |((2 ^ 52 : Int) : ℚ) * 2 ^ e - num / den| := (multiple_closest num hden e (2 ^ 52)).1
        _ = num / den - (2 ^ 52 : Int) * 2 ^ e := by
          rw [abs_sub_comm, abs_of_nonneg (sub_nonneg.2 hfull)]
        _ < num / den - signOf negative * y.toRat := sub_lt_sub_left hlt _
        _ ≤ |signOf negative * y.toRat - num / den| := by
          rw [abs_sub_comm]
          exact le_abs_self _
    constructor
    · intro y
      rw [abs_sub_signOf, abs_sub_signOf, hx]
      rcases multiple_or_below y negative e with ⟨j, hj⟩ | ⟨hleast, hlt⟩
      · rw [hj]
        exact (multiple_closest num hden e j).1
      · exact (hbelow y hleast hlt).le
    · intro y htie hne
      rw [abs_sub_signOf, abs_sub_signOf, hx] at htie
      rcases multiple_or_below y negative e with ⟨j, hj⟩ | ⟨hleast, hlt⟩
      · rw [hj] at htie
        refine heven ((multiple_closest num hden e j).2 htie fun hsame => hne ?_)
        have hsigned : signOf negative * y.toRat = signOf negative * x.toRat := by
          rw [hj, hx, hsame, Int.cast_natCast]
        refine mul_left_cancel₀ ?_ hsigned
        rw [← abs_ne_zero, abs_signOf]
        exact one_ne_zero
      · exact absurd htie (hbelow y hleast hlt).ne'

end JsonQuery.Double
