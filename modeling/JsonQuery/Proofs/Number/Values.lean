import Mathlib
import JsonQuery.Proofs.Number.Order
import JsonQuery.Proofs.Decimal.View

/-!
# Order and value

Numbers are ordered by their keys, and the key of a double is its decimal view, which has some fifteen
digits.

* `Number.key_mono` — a greater number never has a smaller key.
* `Number.key_eq_iff` — exactly the short numbers are their own keys; `Number.abs_key_sub` — any other number
  has a key nearby.
* `Number.compare_values` — the order is that of the values, but for numbers that are so near to each other
  that they have one key.
-/

namespace JsonQuery.Number

open Double (signOf)
open Decimal (Short viewed)

variable {a b n : Number} {x y : Double} {i : Int}

/-- How far the key of a number of some value may be from that value. -/
def viewError (q : ℚ) : ℚ := |q| / 2 ^ 49 + 2 / 10 ^ 28

/-! ## Keys -/

theorem key_integer (h : InRange i) : (integer i h).key = i := by
  obtain ⟨d, hd, hvalue⟩ := Decimal.ofInt?_ok (i := i) (by have := natAbs_le_of_inRange h; omega)
  exact (key_of_some (n := integer i h) hd).trans hvalue

theorem key_double (x : Double) : (double x).key = signOf x.negative * viewed x := by
  cases hx : Decimal.ofDouble? x with
  | some d => exact (key_of_some (n := double x) hx).trans (Decimal.toRat_of_ofDouble? hx)
  | none =>
    -- without a view the double is large, and has no binary places
    have hexp : 0 ≤ x.exponent := by
      by_contra hexp
      exact Decimal.ofDouble?_ne_none (by omega) hx
    rw [viewed, if_pos hexp, ← Double.toRat_signed]
    exact key_of_none (n := double x) hx

theorem key_of_nonneg (h : 0 ≤ x.toRat) : (double x).key = viewed x := by
  rw [key_double]
  rcases h.lt_or_eq with hpos | hzero
  · rw [Double.signOf_of_pos hpos, one_mul]
  · have hview : viewed x = (0 : Nat) := Decimal.viewed_of_nat (by rw [← hzero]; simp)
    rw [hview, Nat.cast_zero, mul_zero]

theorem key_of_nonpos (h : x.toRat ≤ 0) : (double x).key = -viewed x := by
  rw [key_double]
  rcases h.lt_or_eq with hneg | hzero
  · rw [Double.signOf_of_neg hneg, neg_one_mul]
  · have hview : viewed x = (0 : Nat) := Decimal.viewed_of_nat (by rw [hzero]; simp)
    rw [hview, Nat.cast_zero, mul_zero, neg_zero]

/-- A number that is not below an integer has no key below it. -/
theorem int_le_key (h : (i : ℚ) ≤ x.toRat) : (i : ℚ) ≤ (double x).key := by
  rcases le_total 0 x.toRat with hx | hx
  · rw [key_of_nonneg hx]
    rcases le_total i 0 with hi | hi
    · exact le_trans (by exact_mod_cast hi) (Decimal.viewed_nonneg x)
    · obtain ⟨m, rfl⟩ := Int.eq_ofNat_of_zero_le hi
      exact Decimal.nat_le_viewed (h.trans (le_abs_self _))
  · have hi : i ≤ 0 := by exact_mod_cast h.trans hx
    obtain ⟨m, rfl⟩ : ∃ m : Nat, i = -(m : Int) := ⟨i.natAbs, by omega⟩
    rw [key_of_nonpos hx]
    push_cast at h ⊢
    refine neg_le_neg (Decimal.viewed_le_nat ?_)
    rw [abs_of_nonpos hx]
    linarith

/-- A number that is not above an integer has no key above it. -/
theorem key_le_int (h : x.toRat ≤ i) : (double x).key ≤ i := by
  rcases le_total x.toRat 0 with hx | hx
  · rw [key_of_nonpos hx]
    rcases le_total 0 i with hi | hi
    · exact (neg_nonpos.2 (Decimal.viewed_nonneg x)).trans (by exact_mod_cast hi)
    · obtain ⟨m, rfl⟩ : ∃ m : Nat, i = -(m : Int) := ⟨i.natAbs, by omega⟩
      push_cast at h ⊢
      refine neg_le_neg (Decimal.nat_le_viewed ?_)
      rw [abs_of_nonpos hx]
      linarith
  · have hi : 0 ≤ i := by exact_mod_cast hx.trans h
    obtain ⟨m, rfl⟩ := Int.eq_ofNat_of_zero_le hi
    rw [key_of_nonneg hx]
    refine Decimal.viewed_le_nat ?_
    rw [abs_of_nonneg hx]
    exact h

theorem key_double_mono (h : x.toRat ≤ y.toRat) : (double x).key ≤ (double y).key := by
  rcases le_total 0 x.toRat with hx | hx
  · have hy := hx.trans h
    rw [key_of_nonneg hx, key_of_nonneg hy]
    refine Decimal.viewed_mono ?_
    rwa [abs_of_nonneg hx, abs_of_nonneg hy]
  · rcases le_total 0 y.toRat with hy | hy
    · rw [key_of_nonpos hx, key_of_nonneg hy]
      exact (neg_nonpos.2 (Decimal.viewed_nonneg x)).trans (Decimal.viewed_nonneg y)
    · rw [key_of_nonpos hx, key_of_nonpos hy]
      refine neg_le_neg (Decimal.viewed_mono ?_)
      rw [abs_of_nonpos hx, abs_of_nonpos hy]
      exact neg_le_neg h

/-- **A greater number never has a smaller key.** -/
theorem key_mono (h : a.toRat ≤ b.toRat) : a.key ≤ b.key := by
  cases a with
  | integer i hi =>
    cases b with
    | integer j hj => rwa [key_integer, key_integer]
    | double y =>
      rw [key_integer]
      exact int_le_key h
  | double x =>
    cases b with
    | integer j hj =>
      rw [key_integer]
      exact key_le_int h
    | double y => exact key_double_mono h

/-- **Exactly the short numbers are their own keys.** -/
theorem key_eq_iff : n.key = n.toRat ↔ Short n.toRat := by
  cases n with
  | integer i hi => exact iff_of_true (key_integer hi) (.inl ⟨i, rfl⟩)
  | double x =>
    show (double x).key = x.toRat ↔ Short x.toRat
    rw [← Decimal.viewed_eq_iff, key_double]
    have hsign : signOf x.negative ≠ 0 := by
      rw [← abs_ne_zero, Double.abs_signOf]
      exact one_ne_zero
    refine Iff.trans ?_ (mul_right_inj' hsign)
    rw [← Double.toRat_signed]

theorem abs_key_sub (n : Number) : |n.key - n.toRat| ≤ viewError n.toRat := by
  cases n with
  | integer i hi =>
    rw [key_integer, toRat, sub_self, abs_zero]
    unfold viewError
    positivity
  | double x =>
    show |(double x).key - x.toRat| ≤ viewError x.toRat
    rw [key_double]
    nth_rewrite 1 [Double.toRat_signed x]
    rw [← mul_sub, abs_mul, Double.abs_signOf, one_mul]
    exact Decimal.abs_viewed_sub x

theorem key_pos (h : 1 / 10 ^ 28 ≤ n.toRat) : 0 < n.key := by
  have hpos : 0 < n.toRat := lt_of_lt_of_le (by norm_num) h
  cases n with
  | integer i hi =>
    rw [key_integer]
    exact hpos
  | double x =>
    have h : 1 / 10 ^ 28 ≤ x.toRat := h
    rw [key_of_nonneg hpos.le]
    exact Decimal.viewed_pos (h.trans (le_abs_self _))

theorem key_eq_zero (hpos : 0 < n.toRat) (h : n.toRat ≤ 94 / 10 ^ 30) : n.key = 0 := by
  cases n with
  | integer i hi =>
    have hpos : (0 : ℚ) < i := hpos
    have hone : (1 : ℚ) ≤ i := by exact_mod_cast Int.cast_pos.1 hpos
    have hsmall : (i : ℚ) ≤ 94 / 10 ^ 30 := h
    norm_num at hsmall
    linarith
  | double x =>
    have hpos : 0 < x.toRat := hpos
    rw [key_of_nonneg hpos.le]
    refine Decimal.viewed_eq_zero ?_
    rw [abs_of_pos hpos]
    exact h

/-! ## Order -/

/-- A comparison of keys is one of the values, or the keys are the same. -/
theorem cmp_key (a b : Number) : cmp a.key b.key = cmp a.toRat b.toRat ∨ a.key = b.key := by
  rcases lt_trichotomy a.toRat b.toRat with hlt | heq | hgt
  · rcases (key_mono hlt.le).lt_or_eq with hkey | hkey
    · exact .inl (by rw [(cmp_eq_lt_iff _ _).2 hkey, (cmp_eq_lt_iff _ _).2 hlt])
    · exact .inr hkey
  · exact .inr (le_antisymm (key_mono heq.le) (key_mono heq.ge))
  · rcases (key_mono hgt.le).lt_or_eq with hkey | hkey
    · exact .inl (by rw [(cmp_eq_gt_iff _ _).2 hkey, (cmp_eq_gt_iff _ _).2 hgt])
    · exact .inr hkey.symm

/-- **Numbers compare by value, up to the precision of their keys.**  Any two numbers are ordered; their
order is that of their values, or it is that of equal numbers and the values are next to each other; it is
always that of the values when both numbers are short.  A positive number from one in the 28th place on is
greater than zero, and one that is a little smaller than that is not. -/
theorem compare_values (a b : Number) : ∃ order, compare a b = some order ∧
    (order = cmp a.toRat b.toRat ∨
      order = .eq ∧ |a.toRat - b.toRat| ≤ viewError a.toRat + viewError b.toRat) ∧
    (Short a.toRat → Short b.toRat → order = cmp a.toRat b.toRat) ∧
    (b.toRat = 0 → (1 / 10 ^ 28 ≤ a.toRat → order = .gt) ∧
      (0 < a.toRat → a.toRat ≤ 94 / 10 ^ 30 → order = .eq)) := by
  refine ⟨cmp a.key b.key, compare_eq a b, ?_, ?_, ?_⟩
  · refine (cmp_key a b).imp_right fun hkey => ⟨(cmp_eq_eq_iff _ _).2 hkey, ?_⟩
    calc |a.toRat - b.toRat| ≤ |a.toRat - a.key| + |a.key - b.toRat| := abs_sub_le _ _ _
      _ = |a.key - a.toRat| + |b.key - b.toRat| := by rw [abs_sub_comm a.toRat, hkey]
      _ ≤ viewError a.toRat + viewError b.toRat := add_le_add (abs_key_sub a) (abs_key_sub b)
  · intro ha hb
    rw [key_eq_iff.2 ha, key_eq_iff.2 hb]
  · intro hzero
    have hkey : b.key = 0 := by
      rw [key_eq_iff.2 (.inl ⟨0, by rw [hzero, Int.cast_zero]⟩), hzero]
    rw [hkey]
    exact ⟨fun h => (cmp_eq_gt_iff _ _).2 (key_pos h),
      fun hpos h => (cmp_eq_eq_iff _ _).2 (key_eq_zero hpos h)⟩

/-- The double nearest to 10^-30 is greater than zero, and compares equal to it. -/
theorem compare_values_tiny :
    0 < (double ⟨false, 5708990770823840, -152, by decide⟩).toRat ∧
      compare (double ⟨false, 5708990770823840, -152, by decide⟩) (integer 0 (by decide)) = some .eq := by
  have hvalue : (double ⟨false, 5708990770823840, -152, by decide⟩).toRat = 5708990770823840 / 2 ^ 152 := by
    simp [toRat, Double.toRat, Double.twoPow_eq, div_eq_mul_inv]
  have hpos : 0 < (double ⟨false, 5708990770823840, -152, by decide⟩).toRat := by
    rw [hvalue]
    norm_num
  obtain ⟨order, horder, -, -, hzero⟩ :=
    compare_values (double ⟨false, 5708990770823840, -152, by decide⟩) (integer 0 (by decide))
  have heq : order = .eq := (hzero Int.cast_zero).2 hpos (by rw [hvalue]; norm_num)
  exact ⟨hpos, heq ▸ horder⟩

end JsonQuery.Number
