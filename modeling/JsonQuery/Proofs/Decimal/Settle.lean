import JsonQuery.Proofs.Decimal.Value

/-!
# Shortened decimals

* `Decimal.settle` — a mantissa and its places, shortened as the view of a double is.
* `Decimal.settle_pow` — trailing zeros do not matter; `Decimal.settle_mono` — greater values settle at
  greater ones.
* `Decimal.settle_integer`, `Decimal.settle_of_short` — integers and short decimals stay what they are.
* `Decimal.abs_settle_sub` — a value settles near itself.
-/

namespace JsonQuery.Decimal

/-- A mantissa and its places, shortened to 28 places and then to a mantissa below 2^52. -/
def settle (m k : Nat) : Nat × Nat := shorten (dropPlaces (k - 28) m) (min k 28)

variable {m m' k k' n : Nat}

/-! ## Trailing zeros -/

theorem roundHalfUp_ten (m : Nat) : Double.roundHalfUp (m * 10) 10 = m := by
  unfold Double.roundHalfUp
  split <;> omega

theorem shorten_of_lt (h : m < 2 ^ 52) (k : Nat) : shorten m k = (m, k) := by
  cases k with
  | zero => rfl
  | succ k =>
    have h : m < Nat.pow 2 52 := h
    rw [shorten, if_pos h]

theorem shorten_of_le (h : 2 ^ 52 ≤ m) (k : Nat) :
    shorten m (k + 1) = shorten (Double.roundHalfUp m 10) k := by
  have h : ¬ m < Nat.pow 2 52 := Nat.not_lt.2 h
  rw [shorten, if_neg h]

theorem shorten_ten (m k : Nat) : valueOf (shorten (m * 10) (k + 1)) = valueOf (shorten m k) := by
  by_cases hshort : m * 10 < 2 ^ 52
  · rw [shorten_of_lt hshort, shorten_of_lt (by omega), valueOf_ten]
  · rw [shorten_of_le (Nat.not_lt.1 hshort), roundHalfUp_ten]

theorem dropPlaces_ten (n m : Nat) : dropPlaces (n + 1) (m * 10) = dropPlaces n m := by
  rw [dropPlaces, roundHalfUp_ten]
  split
  · obtain rfl : m = 0 := by omega
    cases n <;> rfl
  · rfl

theorem settle_ten (m k : Nat) : valueOf (settle (m * 10) (k + 1)) = valueOf (settle m k) := by
  unfold settle
  by_cases hk : k < 28
  · rw [Nat.sub_eq_zero_of_le hk, Nat.min_eq_left hk, Nat.sub_eq_zero_of_le (Nat.le_of_lt hk),
      Nat.min_eq_left (Nat.le_of_lt hk)]
    exact shorten_ten m k
  · rw [show k + 1 - 28 = k - 28 + 1 by omega, dropPlaces_ten, Nat.min_eq_right (by omega),
      Nat.min_eq_right (by omega)]

theorem settle_pow (m k n : Nat) : valueOf (settle (m * 10 ^ n) (k + n)) = valueOf (settle m k) := by
  induction n with
  | zero => rw [pow_zero, mul_one, Nat.add_zero]
  | succ n ih => rw [pow_succ, ← mul_assoc, ← Nat.add_assoc, settle_ten, ih]

/-! ## Greater values have greater views -/

theorem roundHalfUp_mono (h : m ≤ m') : Double.roundHalfUp m 10 ≤ Double.roundHalfUp m' 10 := by
  unfold Double.roundHalfUp
  split <;> split <;> omega

theorem dropPlaces_mono (h : m ≤ m') (n : Nat) : dropPlaces n m ≤ dropPlaces n m' := by
  induction n generalizing m m' with
  | zero => exact h
  | succ n ih =>
    rw [dropPlaces, dropPlaces]
    split
    · exact Nat.zero_le _
    · rw [if_neg (by omega)]
      exact ih (roundHalfUp_mono h)

/-- A mantissa of 2^52 or more is not shortened below 2^52. -/
theorem le_shorten (h : 2 ^ 52 ≤ m) (k : Nat) : valueOf (2 ^ 52, k) ≤ valueOf (shorten m k) := by
  induction k generalizing m with
  | zero => exact valueOf_mono h 0
  | succ k ih =>
    rw [shorten_of_le h]
    by_cases hround : 2 ^ 52 ≤ Double.roundHalfUp m 10
    · exact (valueOf_succ_le _ k).trans (ih hround)
    · -- 2^52 ends with a six, so that it is itself rounded up
      have hten : 2 ^ 52 ≤ Double.roundHalfUp m 10 * 10 := by
        unfold Double.roundHalfUp at hround ⊢
        split <;> omega
      rw [shorten_of_lt (Nat.not_le.1 hround), ← valueOf_ten (Double.roundHalfUp m 10)]
      exact valueOf_mono hten _

theorem shorten_mono (h : m ≤ m') (k : Nat) : valueOf (shorten m k) ≤ valueOf (shorten m' k) := by
  induction k generalizing m m' with
  | zero => exact valueOf_mono h 0
  | succ k ih =>
    by_cases hlong : 2 ^ 52 ≤ m
    · rw [shorten_of_le hlong, shorten_of_le (hlong.trans h)]
      exact ih (roundHalfUp_mono h)
    · have hshort := Nat.not_le.1 hlong
      rw [shorten_of_lt hshort]
      by_cases hlong' : 2 ^ 52 ≤ m'
      · exact (valueOf_mono (Nat.le_of_lt hshort) _).trans (le_shorten hlong' _)
      · rw [shorten_of_lt (Nat.not_le.1 hlong')]
        exact valueOf_mono h _

/-- **Settling is monotone.** -/
theorem settle_mono (h : valueOf (m, k) ≤ valueOf (m', k')) :
    valueOf (settle m k) ≤ valueOf (settle m' k') := by
  have hcommon : m * 10 ^ k' ≤ m' * 10 ^ k := by
    have hk : (0 : ℚ) < 10 ^ k := by positivity
    have hk' : (0 : ℚ) < 10 ^ k' := by positivity
    have hcross : (m : ℚ) * 10 ^ k' ≤ m' * 10 ^ k := (div_le_div_iff₀ hk hk').1 h
    exact_mod_cast hcross
  rw [← settle_pow m k k', ← settle_pow m' k' k, Nat.add_comm k' k]
  unfold settle
  exact shorten_mono (dropPlaces_mono hcommon _) _

/-! ## What does not change -/

theorem settle_of_short (hm : m < 2 ^ 52) (hk : k ≤ 28) : settle m k = (m, k) := by
  unfold settle
  rw [Nat.sub_eq_zero_of_le hk, Nat.min_eq_left hk]
  exact shorten_of_lt hm k

theorem settle_integer (m : Nat) : valueOf (settle m 0) = m := by
  show valueOf (m, 0) = m
  unfold valueOf
  rw [pow_zero, div_one]

theorem shorten_short (m k : Nat) : (shorten m k).1 < 2 ^ 52 ∨ (shorten m k).2 = 0 := by
  induction k generalizing m with
  | zero => exact .inr rfl
  | succ k ih =>
    by_cases hlong : 2 ^ 52 ≤ m
    · rw [shorten_of_le hlong]
      exact ih _
    · rw [shorten_of_lt (Nat.not_le.1 hlong)]
      exact .inl (Nat.not_le.1 hlong)

/-! ## Near values have near views -/

theorem dropPlaces_near (n m : Nat) : dropPlaces n m * 10 ^ n + 1 ≤ m + 10 ^ n ∧
    m + 1 ≤ dropPlaces n m * 10 ^ n + 10 ^ n := by
  induction n generalizing m with
  | zero => exact ⟨by simp [dropPlaces], by simp [dropPlaces]⟩
  | succ n ih =>
    have hpow : 1 ≤ 10 ^ n := Nat.one_le_pow _ _ (by norm_num)
    rw [dropPlaces, pow_succ]
    split
    · omega
    · obtain ⟨hupper, hlower⟩ := ih (Double.roundHalfUp m 10)
      have hround : Double.roundHalfUp m 10 * 10 ≤ m + 5 ∧ m ≤ Double.roundHalfUp m 10 * 10 + 4 := by
        unfold Double.roundHalfUp
        split <;> omega
      rw [← mul_assoc]
      omega

/-- What is shortened differs by less than five ninths of its last place, and it had 2^52 of the place
before that. -/
theorem shorten_near (m k : Nat) : ∃ m' j k', shorten m k = (m', k') ∧ k = k' + j ∧
    9 * (m' * 10 ^ j) + 5 ≤ 9 * m + 5 * 10 ^ j ∧ 9 * m + 5 ≤ 9 * (m' * 10 ^ j) + 5 * 10 ^ j ∧
    (j = 0 ∨ (2 ^ 52 - 1) * 10 ^ j + 6 ≤ 10 * m) := by
  induction k generalizing m with
  | zero => exact ⟨m, 0, 0, rfl, rfl, by omega, by omega, .inl rfl⟩
  | succ k ih =>
    by_cases hlong : 2 ^ 52 ≤ m
    · obtain ⟨m', j, k', heq, hk, hupper, hlower, hlast⟩ := ih (Double.roundHalfUp m 10)
      have hround : Double.roundHalfUp m 10 * 10 ≤ m + 5 ∧ m ≤ Double.roundHalfUp m 10 * 10 + 4 := by
        unfold Double.roundHalfUp
        split <;> omega
      have hpow : 10 ^ (j + 1) = 10 ^ j * 10 := pow_succ 10 j
      have hmul : m' * 10 ^ (j + 1) = m' * 10 ^ j * 10 := by rw [hpow, mul_assoc]
      refine ⟨m', j + 1, k', by rw [shorten_of_le hlong, heq], by omega, by omega, by omega, .inr ?_⟩
      rcases hlast with rfl | hlast <;> omega
    · exact ⟨m, 0, k + 1, shorten_of_lt (Nat.not_le.1 hlong) _, rfl, by omega, by omega, .inl rfl⟩

theorem abs_shorten_sub (m k : Nat) :
    |valueOf (shorten m k) - valueOf (m, k)| ≤ valueOf (m, k) * (3 / 2 ^ 51) := by
  obtain ⟨m', j, k', heq, rfl, hupper, hlower, hlast⟩ := shorten_near m k
  have hk : (0 : ℚ) < 10 ^ (k' + j) := by positivity
  have hleft : valueOf (m', k') = m' * 10 ^ j / 10 ^ (k' + j) := by
    unfold valueOf
    rw [pow_add, mul_div_mul_right _ _ (by positivity)]
  have hupper : 9 * ((m' : ℚ) * 10 ^ j) + 5 ≤ 9 * m + 5 * 10 ^ j := by exact_mod_cast hupper
  have hlower : 9 * (m : ℚ) + 5 ≤ 9 * (m' * 10 ^ j) + 5 * 10 ^ j := by exact_mod_cast hlower
  rw [heq, hleft]
  show |_ - (m : ℚ) / 10 ^ (k' + j)| ≤ (m : ℚ) / 10 ^ (k' + j) * (3 / 2 ^ 51)
  rw [← sub_div, abs_div, abs_of_pos hk, div_mul_eq_mul_div, div_le_div_iff_of_pos_right hk, abs_le]
  rcases hlast with rfl | hlast
  · have hm : (0 : ℚ) ≤ m := Nat.cast_nonneg m
    constructor <;> linarith
  · have hlast : ((2 : ℚ) ^ 52 - 1) * 10 ^ j + 6 ≤ 10 * m := by
      rw [show (2 ^ 52 : ℚ) - 1 = (2 ^ 52 - 1 : Nat) by norm_num]
      exact_mod_cast hlast
    constructor <;> linarith

/-- **Settling changes a value little**: in its fifteenth digit, or in the 28th place behind the point. -/
theorem abs_settle_sub (m k : Nat) :
    |valueOf (settle m k) - valueOf (m, k)| ≤ valueOf (m, k) * (3 / 2 ^ 51) + 2 / 10 ^ 28 := by
  unfold settle
  by_cases hk : k ≤ 28
  · rw [Nat.sub_eq_zero_of_le hk, Nat.min_eq_left hk]
    have hnear := abs_shorten_sub m k
    show |valueOf (shorten m k) - _| ≤ _
    linarith [show (0 : ℚ) ≤ 2 / 10 ^ 28 by positivity]
  · obtain ⟨n, rfl⟩ := Nat.exists_eq_add_of_lt (Nat.not_le.1 hk)
    rw [show 28 + n + 1 - 28 = n + 1 by omega, Nat.min_eq_right (by omega)]
    have hdrop : |valueOf (dropPlaces (n + 1) m, 28) - valueOf (m, 28 + n + 1)| ≤ 1 / 10 ^ 28 := by
      obtain ⟨hupper, hlower⟩ := dropPlaces_near (n + 1) m
      have hupper : (dropPlaces (n + 1) m : ℚ) * 10 ^ (n + 1) + 1 ≤ m + 10 ^ (n + 1) := by
        exact_mod_cast hupper
      have hlower : (m : ℚ) + 1 ≤ dropPlaces (n + 1) m * 10 ^ (n + 1) + 10 ^ (n + 1) := by
        exact_mod_cast hlower
      have hpow : (0 : ℚ) < 10 ^ 28 * 10 ^ (n + 1) := by positivity
      have hleft : valueOf (dropPlaces (n + 1) m, 28) =
          dropPlaces (n + 1) m * 10 ^ (n + 1) / (10 ^ 28 * 10 ^ (n + 1)) :=
        (mul_div_mul_right _ _ (by positivity)).symm
      have hright : valueOf (m, 28 + n + 1) = m / (10 ^ 28 * 10 ^ (n + 1)) := by
        unfold valueOf
        rw [Nat.add_assoc, pow_add]
      have hone : (1 : ℚ) / 10 ^ 28 = 10 ^ (n + 1) / (10 ^ 28 * 10 ^ (n + 1)) := by
        rw [← mul_div_mul_right 1 (10 ^ 28) (by positivity : (10 : ℚ) ^ (n + 1) ≠ 0), one_mul]
      rw [hleft, hright, hone, ← sub_div, abs_div, abs_of_pos hpow, div_le_div_iff_of_pos_right hpow, abs_le]
      constructor <;> linarith
    have hnear := abs_shorten_sub (dropPlaces (n + 1) m) 28
    rw [abs_le] at hdrop hnear ⊢
    constructor <;> linarith [hdrop.1, hdrop.2, hnear.1, hnear.2]

end JsonQuery.Decimal
