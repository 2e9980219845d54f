import JsonQuery.Proofs.Decimal
import Mathlib.Tactic.FieldSimp
import Mathlib.Tactic.GCongr

/-!
# The values of decimals

* `Decimal.valueOf` — the value of a mantissa with a number of places.
* `Decimal.valueOf_ten`, `Decimal.strip_eq` — trailing zeros do not change it; `Decimal.valueOf_split` — its
  whole part and its places.
* `Decimal.toRat_signed` — a decimal is its magnitude with its sign.
-/

namespace JsonQuery.Decimal

/-- The value of a mantissa with a number of decimal places. -/
def valueOf (p : Nat × Nat) : ℚ := p.1 / 10 ^ p.2

variable {m m' k : Nat} {d : Decimal}

@[simp] theorem valueOf_zero (k : Nat) : valueOf (0, k) = 0 := by
  simp [valueOf]

theorem valueOf_nonneg (m k : Nat) : 0 ≤ valueOf (m, k) := by
  unfold valueOf
  positivity

theorem valueOf_le (m k : Nat) : valueOf (m, k) ≤ m :=
  div_le_self (Nat.cast_nonneg m) (one_le_pow₀ (by norm_num))

/-- A decimal that is not zero is at least one in its last place. -/
theorem le_valueOf (hm : m ≠ 0) (hk : k ≤ 28) : 1 / 10 ^ 28 ≤ valueOf (m, k) := by
  have hone : (1 : ℚ) ≤ m := by exact_mod_cast Nat.pos_of_ne_zero hm
  have hpow : (10 : ℚ) ^ k ≤ 10 ^ 28 := pow_le_pow_right₀ (by norm_num) hk
  unfold valueOf
  gcongr

theorem valueOf_mono (h : m ≤ m') (k : Nat) : valueOf (m, k) ≤ valueOf (m', k) := by
  have hcast : (m : ℚ) ≤ m' := by exact_mod_cast h
  unfold valueOf
  gcongr

theorem valueOf_mul (m k : Nat) : valueOf (m, k) * 10 ^ k = m :=
  div_mul_cancel₀ _ (by positivity)

theorem valueOf_ten (m k : Nat) : valueOf (m * 10, k + 1) = valueOf (m, k) := by
  unfold valueOf
  push_cast
  rw [pow_succ, mul_div_mul_right _ _ (by norm_num)]

theorem valueOf_succ_le (m k : Nat) : valueOf (m, k + 1) ≤ valueOf (m, k) := by
  rw [← valueOf_ten m k]
  exact valueOf_mono (by omega) _

theorem strip_eq (m k : Nat) : valueOf (strip m k) = valueOf (m, k) := by
  induction k generalizing m with
  | zero => rfl
  | succ k ih =>
    rw [strip]
    split
    · rename_i hten
      rw [ih, ← valueOf_ten, Nat.div_mul_cancel (Nat.dvd_of_mod_eq_zero hten)]
    · rfl

theorem valueOf_split (m k : Nat) :
    valueOf (m, k) = (m / 10 ^ k : Nat) + valueOf (m % 10 ^ k, k) := by
  have hpow : (10 : ℚ) ^ k ≠ 0 := by positivity
  have hsplit : (m : ℚ) = 10 ^ k * (m / 10 ^ k : Nat) + (m % 10 ^ k : Nat) := by
    exact_mod_cast (Nat.div_add_mod m (10 ^ k)).symm
  unfold valueOf
  field_simp
  linarith

theorem valueOf_five (m k : Nat) : valueOf (5 ^ k * m, k) = m / 2 ^ k := by
  unfold valueOf
  push_cast
  rw [show (10 : ℚ) = 5 * 2 by norm_num, mul_pow, mul_div_mul_left _ _ (by positivity)]

/-- A decimal with finitely many binary places, without the quotients. -/
theorem mul_eq_of_valueOf {c t : Nat} (h : valueOf (m, k) = c / 2 ^ t) : m * 2 ^ t = c * 10 ^ k := by
  unfold valueOf at h
  rw [div_eq_div_iff (by positivity) (by positivity)] at h
  exact_mod_cast h

/-! ## Decimals -/

/-- A decimal is its magnitude with its sign. -/
theorem toRat_signed (d : Decimal) :
    d.toRat = Double.signOf d.negative * valueOf (d.mantissa, d.scale) := by
  rw [toRat_eq]
  unfold signed valueOf Double.signOf
  split <;> simp [neg_div]

/-- A decimal that is not negative is its magnitude. -/
theorem toRat_of_nonneg (h : d.negative = false) : d.toRat = valueOf (d.mantissa, d.scale) := by
  rw [toRat_signed, h]
  exact one_mul _

theorem toRat_abs (d : Decimal) : d.abs.toRat = |d.toRat| := by
  rw [toRat_of_nonneg (d := d.abs) rfl, toRat_signed, abs_mul, Double.abs_signOf, one_mul,
    abs_of_nonneg (valueOf_nonneg _ _)]
  rfl

theorem toRat_normalize (d : Decimal) : d.normalize.toRat = d.toRat := by
  rw [toRat_signed, toRat_signed]
  exact congrArg _ (strip_eq d.mantissa d.scale)

end JsonQuery.Decimal
