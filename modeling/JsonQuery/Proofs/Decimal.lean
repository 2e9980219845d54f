import JsonQuery.Decimal.OfDouble
import JsonQuery.Proofs.Double

/-!
# The range of decimals

* `Decimal.abs_toRat_lt` — all decimals are below 2^96 in magnitude; `Decimal.ofInt?_ok` — all integers
  below it are decimals.
* `Decimal.ofDouble?_eq_none` — exactly the doubles of 2^96 and more have no decimal view.
-/

namespace JsonQuery.Decimal

theorem toRat_eq (d : Decimal) : d.toRat = d.signed / 10 ^ d.scale := by
  unfold toRat
  rw [Rat.mkRat_eq_div]
  simp

theorem abs_signed (d : Decimal) : |(d.signed : ℚ)| = d.mantissa := by
  unfold signed
  split <;> simp

theorem abs_toRat_lt (d : Decimal) : |d.toRat| < 2 ^ 96 := by
  have hmantissa : (d.mantissa : ℚ) < 2 ^ 96 := by exact_mod_cast d.inRange.1
  have hscale : (1 : ℚ) ≤ 10 ^ d.scale := one_le_pow₀ (by norm_num)
  calc |d.toRat| = d.mantissa / 10 ^ d.scale := by
        rw [toRat_eq, abs_div, abs_signed, abs_of_pos (by positivity)]
    _ ≤ d.mantissa := div_le_self (Nat.cast_nonneg _) hscale
    _ < 2 ^ 96 := hmantissa

theorem ofParts?_eq_none {negative : Bool} {m s : Nat} :
    ofParts? negative m s = none ↔ ¬ (m < 2 ^ 96 ∧ s ≤ 28) := by
  unfold ofParts?
  split
  · rename_i h
    exact iff_of_false (by simp) (not_not_intro h)
  · rename_i h
    exact iff_of_true rfl h

/-- The integers below 2^96 are decimals. -/
theorem ofInt?_ok {i : Int} (h : i.natAbs < 2 ^ 96) : ∃ d, ofInt? i = some d ∧ d.toRat = i := by
  have hparts : i.natAbs < Nat.pow 2 96 ∧ 0 ≤ 28 := ⟨h, by omega⟩
  refine ⟨⟨decide (i < 0), i.natAbs, 0, hparts⟩, dif_pos hparts, ?_⟩
  have hsigned : signed ⟨decide (i < 0), i.natAbs, 0, hparts⟩ = i := by
    unfold signed
    simp only [decide_eq_true_eq]
    split <;> omega
  rw [toRat_eq, hsigned]
  simp

/-! ## The view of a double -/

theorem absorb_lt {m : Nat} (n k : Nat) (h : m < 2 ^ 96) : (absorb n m k).1 < 2 ^ 96 := by
  induction n generalizing m k with
  | zero => exact h
  | succ n ih =>
    rw [absorb]
    split
    · rename_i hodd
      exact ih k hodd.2
    · exact ih (k - 1) (by omega)

theorem dropPlaces_le (n m : Nat) : dropPlaces n m ≤ m := by
  induction n generalizing m with
  | zero => exact Nat.le_refl m
  | succ n ih =>
    rw [dropPlaces]
    split
    · exact Nat.zero_le m
    · exact Nat.le_trans (ih _) (Double.roundHalfUp_le (by omega))

theorem shorten_le (m k : Nat) : (shorten m k).1 ≤ m ∧ (shorten m k).2 ≤ k := by
  induction k generalizing m with
  | zero => exact ⟨Nat.le_refl m, Nat.le_refl 0⟩
  | succ k ih =>
    rw [shorten]
    split
    · exact ⟨Nat.le_refl m, Nat.le_refl _⟩
    · rename_i hlong
      have hlong : 2 ^ 52 ≤ m := Nat.le_of_not_lt hlong
      obtain ⟨hm, hk⟩ := ih (Double.roundHalfUp m 10)
      have hround : Double.roundHalfUp m 10 ≤ m := Double.roundHalfUp_le (by omega)
      omega

/-- A double of negative exponent has a decimal view. -/
theorem ofDouble?_ne_none {x : Double} (h : x.exponent < 0) : ofDouble? x ≠ none := by
  unfold ofDouble?
  split
  · simp
  · rw [if_neg (by omega)]
    simp only [ne_eq, ofParts?_eq_none, not_not]
    have hmantissa : x.mantissa < 2 ^ 96 := Nat.lt_trans x.canonical.1 (by decide)
    have habsorb := absorb_lt (-x.exponent).toNat (-x.exponent).toNat hmantissa
    generalize absorb (-x.exponent).toNat x.mantissa (-x.exponent).toNat = absorbed at habsorb ⊢
    have hdrop := dropPlaces_le (absorbed.2 - 28) absorbed.1
    obtain ⟨hm, hk⟩ := shorten_le (dropPlaces (absorbed.2 - 28) absorbed.1) (min absorbed.2 28)
    generalize shorten (dropPlaces (absorbed.2 - 28) absorbed.1) (min absorbed.2 28) = short at hm hk ⊢
    have hstrip := strip_le short.1 short.2
    omega

/-- **Exactly the doubles of 2^96 and more have no decimal view.** -/
theorem ofDouble?_eq_none {x : Double} : ofDouble? x = none ↔ 2 ^ 96 ≤ |x.toRat| := by
  -- with an exponent of zero or more the view is exact; with a smaller one there always is a view
  by_cases hexp : 0 ≤ x.exponent
  · obtain ⟨n, hn⟩ := Int.eq_ofNat_of_zero_le hexp
    have habs : |x.toRat| = ((x.mantissa * 2 ^ n : Nat) : ℚ) := by
      rw [Double.abs_toRat, hn]
      simp
    by_cases hzero : x.mantissa = 0
    · have hsome : ofDouble? x = some { zero with negative := x.negative } :=
        if_pos (by simp [Double.isZero, hzero])
      rw [hsome, habs, hzero]
      refine iff_of_false nofun ?_
      norm_num
    · have hparts : ofDouble? x = ofParts? x.negative (x.mantissa * 2 ^ n) 0 := by
        unfold ofDouble?
        rw [if_neg (by simp [Double.isZero, hzero]), if_pos hexp, hn]
        rfl
      rw [hparts, ofParts?_eq_none, habs]
      constructor
      · intro h
        have hle : 2 ^ 96 ≤ x.mantissa * 2 ^ n := by omega
        exact_mod_cast hle
      · intro h
        have hle : 2 ^ 96 ≤ x.mantissa * 2 ^ n := by exact_mod_cast h
        omega
  · refine iff_of_false (ofDouble?_ne_none (by omega)) (not_le_of_gt ?_)
    exact Double.abs_toRat_lt (by omega)

end JsonQuery.Decimal
