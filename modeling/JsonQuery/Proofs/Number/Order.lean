import JsonQuery.Number
import JsonQuery.Proofs.Decimal
import Mathlib.Order.Compare
import Mathlib.Tactic.FieldSimp

/-!
# The order of numbers

* `Number.cmp_decimal` — decimals are ordered by value.
* `Number.key` — the value by which a number is ordered: that of its decimal view, if it has one.
* `Number.compare_eq` — any two numbers are ordered by their keys, whichever views are compared.
-/

namespace JsonQuery.Number

/-- Decimals are ordered by value. -/
theorem cmp_decimal (x y : Decimal) : x.cmp y = cmp x.toRat y.toRat := by
  have hx : (0 : ℚ) < 10 ^ x.scale := by positivity
  have hy : (0 : ℚ) < 10 ^ y.scale := by positivity
  have hleft : ((x.signed * 10 ^ y.scale : Int) : ℚ) = x.toRat * (10 ^ x.scale * 10 ^ y.scale) := by
    rw [Decimal.toRat_eq]
    push_cast
    field_simp
  have hright : ((y.signed * 10 ^ x.scale : Int) : ℚ) = y.toRat * (10 ^ x.scale * 10 ^ y.scale) := by
    rw [Decimal.toRat_eq]
    push_cast
    field_simp
  calc x.cmp y = cmp (x.signed * 10 ^ y.scale) (y.signed * 10 ^ x.scale) :=
        (cmp_eq_compare _ _).symm
    _ = cmp ((x.signed * 10 ^ y.scale : Int) : ℚ) ((y.signed * 10 ^ x.scale : Int) : ℚ) :=
        (Int.cast_strictMono.cmp_map_eq _ _).symm
    _ = cmp x.toRat y.toRat := by
      rw [hleft, hright]
      exact cmp_mul_pos_right (mul_pos hx hy) _ _

/-- The value by which a number is ordered: that of its decimal view, or its own where it has none. -/
def key (n : Number) : ℚ :=
  match n.toDecimal? with
  | some d => d.toRat
  | none => n.toRat

theorem key_of_some {n : Number} {d : Decimal} (h : n.toDecimal? = some d) : n.key = d.toRat := by
  simp only [key, h]

theorem key_of_none {n : Number} (h : n.toDecimal? = none) : n.key = n.toRat := by
  simp only [key, h]

theorem natAbs_le_of_inRange {i : Int} (h : InRange i) : i.natAbs ≤ 2 ^ 64 := by
  have hlow : -2 ^ 63 ≤ i := h.1
  have hhigh : i < 2 ^ 64 := h.2
  omega

/-- A number with a decimal view has a double view, too, and its magnitude is below 2^96. -/
theorem toDouble?_of_toDecimal? {n : Number} {d : Decimal} (h : n.toDecimal? = some d) :
    ∃ x, n.toDouble? = some x ∧ |x.toRat| < 2 ^ 96 := by
  cases n with
  | integer i hrange =>
    have hsize : i.natAbs ≤ 2 ^ 64 := natAbs_le_of_inRange hrange
    have hlog : i.natAbs.log2 < 65 := by
      by_cases hzero : i.natAbs = 0
      · simp [hzero]
      · exact (Nat.log2_lt hzero).2 (by omega)
    have hexists := Double.ofRatio?_one (decide (i < 0)) (Nat.lt_trans hlog (by decide))
    obtain ⟨x, hx, hexp⟩ := hexists
    exact ⟨x, hx, Double.abs_toRat_lt (by omega)⟩
  | double x =>
    refine ⟨x, rfl, ?_⟩
    by_contra hlarge
    have hnone : Decimal.ofDouble? x = none := Decimal.ofDouble?_eq_none.2 (not_lt.1 hlarge)
    rw [toDecimal?, hnone] at h
    cases h

/-- A number without a decimal view is a double of 2^96 or more. -/
theorem eq_double_of_toDecimal? {n : Number} (h : n.toDecimal? = none) :
    ∃ x, n = double x ∧ 2 ^ 96 ≤ |x.toRat| := by
  cases n with
  | integer i hrange =>
    have hsize : i.natAbs ≤ 2 ^ 64 := natAbs_le_of_inRange hrange
    obtain ⟨d, hd, -⟩ := Decimal.ofInt?_ok (i := i) (by omega)
    rw [toDecimal?, hd] at h
    cases h
  | double x => exact ⟨x, rfl, Decimal.ofDouble?_eq_none.1 h⟩

/-- All values below a bound stand in the same order to one that is beyond it. -/
theorem cmp_of_large {p q r bound : ℚ} (hp : |p| < bound) (hq : |q| < bound) (hr : bound ≤ |r|) :
    cmp p r = cmp q r := by
  rw [abs_lt] at hp hq
  rcases le_abs.1 hr with hr | hr
  · rw [(cmp_eq_lt_iff p r).2 (by linarith), (cmp_eq_lt_iff q r).2 (by linarith)]
  · rw [(cmp_eq_gt_iff p r).2 (by linarith), (cmp_eq_gt_iff q r).2 (by linarith)]

/-- **Numbers are ordered by their keys**, whichever of their views are compared. -/
theorem compare_eq (a b : Number) : compare a b = some (cmp a.key b.key) := by
  unfold compare
  -- a number without a decimal view is beyond every number with one, whichever view of that is taken, so
  -- the doubles order such a pair as the keys do
  cases ha : a.toDecimal? with
  | some x =>
    have hkey := key_of_some ha
    obtain ⟨u, hu, hsmall⟩ := toDouble?_of_toDecimal? ha
    cases hb : b.toDecimal? with
    | some y =>
      have hkey' := key_of_some hb
      rw [hkey, hkey']
      exact congrArg some (cmp_decimal x y)
    | none =>
      have hkey' := key_of_none hb
      obtain ⟨v, rfl, hlarge⟩ := eq_double_of_toDecimal? hb
      rw [hkey, hkey', hu]
      exact congrArg some (cmp_of_large hsmall x.abs_toRat_lt hlarge)
  | none =>
    have hkey := key_of_none ha
    obtain ⟨u, rfl, hlarge⟩ := eq_double_of_toDecimal? ha
    cases hb : b.toDecimal? with
    | some y =>
      have hkey' := key_of_some hb
      obtain ⟨v, hv, hsmall⟩ := toDouble?_of_toDecimal? hb
      rw [hkey, hkey', hv]
      exact congrArg some (cmp_eq_cmp_symm.2 (cmp_of_large hsmall y.abs_toRat_lt hlarge))
    | none =>
      have hkey' := key_of_none hb
      obtain ⟨v, rfl, _⟩ := eq_double_of_toDecimal? hb
      rw [hkey, hkey']
      rfl

end JsonQuery.Number
