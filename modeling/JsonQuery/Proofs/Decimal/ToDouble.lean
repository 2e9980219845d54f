import Mathlib
import JsonQuery.Proofs.Decimal.Settle
import JsonQuery.Proofs.Double.Arithmetic

/-!
# Decimals as doubles

A decimal is turned into a double by way of its whole part and its fraction, with a rounding at each step.

* `Decimal.Close` — a value up to a relative error, with the errors of sums, products and quotients.
* `Decimal.exists_parts` — the doubles that the conversion starts from, and their errors.
* `Decimal.magnitude?_near` — a decimal of at most 52 bits becomes a double near it, or of its value if that has
  no more binary places than decimal ones; `Decimal.magnitude?_integer` — so does an integer that is a double.
-/

namespace JsonQuery.Decimal

open Double (Rounds signOf)

/-! ## Relative errors -/

/-- A value is another one that is not negative, up to a relative error of so many units of 2^-56. -/
structure Close (units : Nat) (p q : ℚ) : Prop where
  nonneg : 0 ≤ q
  near : |p - q| ≤ units * q / 2 ^ 56

namespace Close

variable {j k : Nat} {a b c p q : ℚ}

theorem bounds (h : Close k p q) (hk : k ≤ 128) :
    q * (1 - 1 / 2 ^ 49) ≤ p ∧ p ≤ q * (1 + 1 / 2 ^ 49) := by
  have hk : (k : ℚ) ≤ 128 := by exact_mod_cast hk
  have hunits : (k : ℚ) * q / 2 ^ 56 ≤ q / 2 ^ 49 := by
    have hmul := mul_le_mul_of_nonneg_right hk h.nonneg
    linarith
  have hnear := abs_le.1 (h.near.trans hunits)
  constructor <;> linarith [hnear.1, hnear.2]

theorem trans (h : Close j a b) (h' : Close k b c) (hj : j ≤ 128) (hk : k ≤ 128) :
    Close (j + k + 1) a c := by
  have hb := (h'.bounds hk).2
  have hj : (j : ℚ) ≤ 128 := by exact_mod_cast hj
  have hprod : (j : ℚ) * b ≤ j * c + c := by
    calc (j : ℚ) * b ≤ j * (c * (1 + 1 / 2 ^ 49)) := by gcongr
      _ = j * c + j * c / 2 ^ 49 := by ring
      _ ≤ j * c + c := by
        have hmul := mul_le_mul_of_nonneg_right hj h'.nonneg
        linarith [h'.nonneg]
  refine ⟨h'.nonneg, ?_⟩
  calc |a - c| ≤ |a - b| + |b - c| := abs_sub_le a b c
    _ ≤ j * b / 2 ^ 56 + k * c / 2 ^ 56 := add_le_add h.near h'.near
    _ ≤ (j + k + 1 : Nat) * c / 2 ^ 56 := by
      push_cast
      linarith

theorem add (h : Close k a p) (h' : Close k b q) : Close k (a + b) (p + q) := by
  refine ⟨add_nonneg h.nonneg h'.nonneg, ?_⟩
  calc |a + b - (p + q)| = |(a - p) + (b - q)| := by ring_nf
    _ ≤ |a - p| + |b - q| := abs_add_le _ _
    _ ≤ k * p / 2 ^ 56 + k * q / 2 ^ 56 := add_le_add h.near h'.near
    _ = k * (p + q) / 2 ^ 56 := by ring

theorem eq (h : Close 0 p q) : p = q := by
  have hnear := h.near
  rw [Nat.cast_zero, zero_mul, zero_div] at hnear
  exact sub_eq_zero.1 (abs_nonpos_iff.1 hnear)

theorem refl (hq : 0 ≤ q) : Close k q q := by
  refine ⟨hq, ?_⟩
  rw [sub_self, abs_zero]
  positivity

theorem mul (h : Close j a p) (h' : Close k b q) (hj : j ≤ 128) (hk : k ≤ 128) :
    Close (j + k + 1) (a * b) (p * q) := by
  have hpq : 0 ≤ p * q := mul_nonneg h.nonneg h'.nonneg
  have hscaled : Close k (p * b) (p * q) := by
    refine ⟨hpq, ?_⟩
    calc |p * b - p * q| = p * |b - q| := by rw [← mul_sub, abs_mul, abs_of_nonneg h.nonneg]
      _ ≤ p * (k * q / 2 ^ 56) := mul_le_mul_of_nonneg_left h'.near h.nonneg
      _ = k * (p * q) / 2 ^ 56 := by ring
  have hb : 0 ≤ b := le_trans (mul_nonneg h'.nonneg (by norm_num)) (h'.bounds hk).1
  have hfirst : Close j (a * b) (p * b) := by
    refine ⟨mul_nonneg h.nonneg hb, ?_⟩
    calc |a * b - p * b| = |a - p| * b := by rw [← sub_mul, abs_mul, abs_of_nonneg hb]
      _ ≤ j * p / 2 ^ 56 * b := mul_le_mul_of_nonneg_right h.near hb
      _ = j * (p * b) / 2 ^ 56 := by ring
  exact hfirst.trans hscaled hj hk

theorem inv (h : Close k b q) (hq : 0 < q) (hk : k ≤ 127) : Close (k + 1) b⁻¹ q⁻¹ := by
  have hlow := (h.bounds (by omega)).1
  have hb : 0 < b := lt_of_lt_of_le (mul_pos hq (by norm_num)) hlow
  have hk : (k : ℚ) ≤ 127 := by exact_mod_cast hk
  have hprod : (k : ℚ) * q ≤ (k + 1 : Nat) * b := by
    calc (k : ℚ) * q ≤ (k + 1) * (q * (1 - 1 / 2 ^ 49)) := by
          have hmul := mul_le_mul_of_nonneg_right hk hq.le
          linarith
      _ ≤ (k + 1) * b := by gcongr
      _ = (k + 1 : Nat) * b := by push_cast; ring
  refine ⟨inv_nonneg.2 hq.le, ?_⟩
  calc |b⁻¹ - q⁻¹| = |b - q| * (b⁻¹ * q⁻¹) := by
        rw [inv_sub_inv hb.ne' hq.ne', abs_div, abs_sub_comm, abs_of_pos (mul_pos hb hq), div_eq_mul_inv,
          mul_inv]
    _ ≤ k * q / 2 ^ 56 * (b⁻¹ * q⁻¹) := by
      exact mul_le_mul_of_nonneg_right h.near (by positivity)
    _ ≤ (k + 1 : Nat) * b / 2 ^ 56 * (b⁻¹ * q⁻¹) := by gcongr
    _ = (k + 1 : Nat) * q⁻¹ / 2 ^ 56 := by field_simp

theorem div (h : Close j a p) (h' : Close k b q) (hq : 0 < q) (hj : j ≤ 128) (hk : k ≤ 127) :
    Close (j + k + 2) (a / b) (p / q) := by
  rw [div_eq_mul_inv, div_eq_mul_inv]
  exact h.mul (h'.inv hq hk) hj (by omega)

/-- A rounded value is the value, up to nine units. -/
theorem of_rounds {y : Double} (h : Rounds y q) (hq : 1 / 2 ^ 100 ≤ q) : Close 9 y.toRat q := by
  have hpos : (0 : ℚ) ≤ q := le_trans (by positivity) hq
  refine ⟨hpos, h.near.trans ?_⟩
  have htiny : (1 : ℚ) / 2 ^ 1075 ≤ q / 2 ^ 56 := by
    calc (1 : ℚ) / 2 ^ 1075 ≤ 1 / 2 ^ 156 := by
          apply one_div_le_one_div_of_le
          · positivity
          · exact pow_le_pow_right₀ one_le_two (by norm_num)
      _ = 1 / 2 ^ 100 / 2 ^ 56 := by rw [div_div, ← pow_add]
      _ ≤ q / 2 ^ 56 := by gcongr
  calc |q| / 2 ^ 53 + 1 / 2 ^ 1075 ≤ q / 2 ^ 53 + q / 2 ^ 56 := by
        rw [abs_of_nonneg hpos]
        exact add_le_add_right htiny _
    _ = (9 : Nat) * q / 2 ^ 56 := by
      push_cast
      ring

/-- Another rounding adds ten units. -/
theorem rounded {y : Double} (h : Close k p q) (hrounds : Rounds y p) (hk : k ≤ 118)
    (hq : 1 / 10 ^ 28 ≤ q) : Close (k + 10) y.toRat q := by
  have hp : 1 / 2 ^ 100 ≤ p := by linarith [(h.bounds (by omega)).1]
  rw [show k + 10 = 9 + k + 1 by omega]
  exact (of_rounds hrounds hp).trans h (by omega) (by omega)

/-- Rounding to an integer doubles the error at most. -/
theorem integer {m i : Nat} (h : Close k p m) (hi : |(i : ℚ) - p| ≤ 1 / 2) : Close (2 * k) i m := by
  refine ⟨h.nonneg, ?_⟩
  have hsum : |(i : ℚ) - m| ≤ 1 / 2 + k * m / 2 ^ 56 := (abs_sub_le _ p _).trans (add_le_add hi h.near)
  rcases lt_or_ge (k * m / 2 ^ 56 : ℚ) (1 / 2) with hlt | hge
  · -- the error is below a half, so the integer is met
    have hone : |((i : Int) - m : Int)| < 1 := by
      have hone : |(((i : Int) - m : Int) : ℚ)| < 1 := by
        push_cast
        linarith
      exact_mod_cast hone
    obtain rfl : i = m := by
      rw [Int.abs_lt_one_iff] at hone
      omega
    rw [sub_self, abs_zero]
    positivity
  · push_cast
    linarith

theorem small {k : Nat} {p q : ℚ} (h : Close k p q) (hk : k ≤ 128) (hq : q ≤ 2 ^ 199) :
    |p| < 2 ^ 1023 := by
  obtain ⟨hlow, hhigh⟩ := h.bounds hk
  have hp : 0 ≤ p := le_trans (mul_nonneg h.nonneg (by norm_num)) hlow
  calc |p| = p := abs_of_nonneg hp
    _ ≤ q * (1 + 1 / 2 ^ 49) := hhigh
    _ ≤ q * 2 := mul_le_mul_of_nonneg_left (by norm_num) h.nonneg
    _ ≤ 2 ^ 199 * 2 := by gcongr
    _ = 2 ^ 200 := by norm_num
    _ < 2 ^ 1023 := pow_lt_pow_right₀ one_lt_two (by norm_num)

theorem pos {k : Nat} {p q : ℚ} (h : Close k p q) (hk : k ≤ 128) (hq : 0 < q) : 0 < p :=
  lt_of_lt_of_le (mul_pos hq (by norm_num)) (h.bounds hk).1

end Close

/-! ## The roundings -/

variable {d : Decimal} {whole part one fraction : Double}

theorem magnitude?_eq (hwhole : Double.ofRatio? false (d.mantissa / Nat.pow 10 d.scale) 1 = some whole)
    (hpart : Double.ofRatio? false (d.mantissa % Nat.pow 10 d.scale) 1 = some part)
    (hone : Double.ofRatio? false (Nat.pow 10 d.scale) 1 = some one)
    (hfraction : part.div? one = some fraction) : d.magnitude? =
      if d.scale = 0 ∨ fraction.isZero then some whole
      else (whole.add? fraction).bind fun sum =>
        (sum.mul? one).bind fun scaled => scaled.round?.bind fun rounded => rounded.div? one := by
  unfold magnitude?
  simp only [hwhole, hpart, hone, hfraction, Option.bind_eq_bind, Option.bind_some]
  rfl

/-- A natural number becomes a double of its value, if it is one. -/
theorem ofRatio?_nat {m : Nat} (hm : ∃ x : Double, x.toRat = m) :
    ∃ y, Double.ofRatio? false m 1 = some y ∧ y.toRat = m := by
  obtain ⟨x, hx⟩ := hm
  have habs : (m : ℚ) / (1 : Nat) = |x.toRat| := by rw [hx, Nat.cast_one, div_one, Nat.abs_cast]
  obtain ⟨y, hy, hsign, hvalue⟩ := Double.ofRatio?_exact false one_ne_zero habs
  refine ⟨y, hy, ?_⟩
  rw [Double.toRat_signed, hsign, hvalue, hx, Nat.abs_cast]
  exact one_mul _

/-- The power of ten is a double, or rounded to one nearby. -/
theorem ofRatio?_ten {k : Nat} (hk : k ≤ 28) :
    ∃ y, Double.ofRatio? false (Nat.pow 10 k) 1 = some y ∧ Close 9 y.toRat (10 ^ k) ∧
      (k ≤ 22 → y.toRat = 10 ^ k) := by
  have hone : (1 : ℚ) ≤ 10 ^ k := one_le_pow₀ (by norm_num)
  have hlarge : (10 : ℚ) ^ k ≤ 2 ^ 199 := by
    calc (10 : ℚ) ^ k ≤ 10 ^ 28 := pow_le_pow_right₀ (by norm_num) hk
      _ ≤ 2 ^ 199 := by norm_num
  have hsmall : |(10 : ℚ) ^ k| < 2 ^ 1023 := (Close.refl (k := 0) (by positivity)).small (by omega) hlarge
  have hvalue : ((Nat.pow 10 k : Nat) : ℚ) / (1 : Nat) = 10 ^ k := by simp
  have hbound : ((Nat.pow 10 k : Nat) : ℚ) / (1 : Nat) < 2 ^ 1023 := by
    rw [hvalue]
    exact lt_of_abs_lt hsmall
  obtain ⟨y, hy, hrounds⟩ := Double.ofRatio?_rounds false one_ne_zero hbound
  rw [hvalue, show signOf false = 1 from rfl, one_mul] at hrounds
  refine ⟨y, hy, Close.of_rounds hrounds (le_trans (by norm_num) hone), fun hfew => ?_⟩
  have hfive : 5 ^ k < 2 ^ 53 :=
    Nat.lt_of_le_of_lt (Nat.pow_le_pow_right (by norm_num) hfew) (by norm_num)
  obtain ⟨x, hx⟩ := Double.exists_toRat (1074 + k) hfive (by omega)
  refine hrounds.exact ⟨x, ?_⟩
  rw [hx, show ((1074 + k : Nat) : Int) - 1074 = k by omega, zpow_natCast]
  push_cast
  rw [← mul_pow]
  norm_num

/-- A mantissa of at most 52 bits has at most 22 factors of five. -/
theorem le_of_five_pow_dvd {m k : Nat} (hm : m < 2 ^ 52) (hzero : m ≠ 0) (hdvd : 5 ^ k ∣ m) : k ≤ 22 := by
  have hle : 5 ^ k ≤ m := Nat.le_of_dvd (Nat.pos_of_ne_zero hzero) hdvd
  have hlt : k < 23 := (Nat.pow_lt_pow_iff_right (by norm_num : 1 < 5)).1 (by omega)
  omega

/-- A decimal of few binary places has as many factors of five as it has places. -/
theorem five_pow_dvd {m k c t : Nat} (h : valueOf (m, k) = c / 2 ^ t) : 5 ^ k ∣ m := by
  have hcoprime : Nat.Coprime (5 ^ k) (2 ^ t) := Nat.Coprime.pow _ _ (by norm_num)
  refine hcoprime.dvd_of_dvd_mul_right ?_
  rw [mul_eq_of_valueOf h, show (10 : Nat) = 5 * 2 by norm_num, mul_pow]
  exact ⟨c * 2 ^ k, by ring⟩

/-- The whole part, the places, the power of ten and the fraction, as doubles. -/
theorem exists_parts (hM : d.mantissa < 2 ^ 52) : ∃ whole part one fraction,
    Double.ofRatio? false (d.mantissa / Nat.pow 10 d.scale) 1 = some whole ∧
    Double.ofRatio? false (d.mantissa % Nat.pow 10 d.scale) 1 = some part ∧
    Double.ofRatio? false (Nat.pow 10 d.scale) 1 = some one ∧ part.div? one = some fraction ∧
    whole.toRat = (d.mantissa / 10 ^ d.scale : Nat) ∧ Close 9 one.toRat (10 ^ d.scale) ∧
    Close 21 fraction.toRat (valueOf (d.mantissa % 10 ^ d.scale, d.scale)) ∧
    (5 ^ d.scale ∣ d.mantissa → d.mantissa ≠ 0 → one.toRat = 10 ^ d.scale ∧
      fraction.toRat = valueOf (d.mantissa % 10 ^ d.scale, d.scale) ∧
      ∃ x : Double, x.toRat = valueOf (d.mantissa, d.scale)) := by
  have hten : (0 : ℚ) < 10 ^ d.scale := by positivity
  have hmod : d.mantissa % 10 ^ d.scale < 2 ^ 52 := Nat.lt_of_le_of_lt (Nat.mod_le _ _) hM
  have hdiv : d.mantissa / 10 ^ d.scale < 2 ^ 52 := Nat.lt_of_le_of_lt (Nat.div_le_self _ _) hM
  obtain ⟨whole, hwhole, hW⟩ := ofRatio?_nat (Double.exists_toRat_nat (hdiv.trans (by norm_num)))
  obtain ⟨part, hpart, hP⟩ := ofRatio?_nat (Double.exists_toRat_nat (hmod.trans (by norm_num)))
  obtain ⟨one, hone, hunit, hunit'⟩ := ofRatio?_ten d.inRange.2
  have hquot : Close 11 (part.toRat / one.toRat) (valueOf (d.mantissa % 10 ^ d.scale, d.scale)) := by
    rw [hP]
    exact (Close.refl (k := 0) (Nat.cast_nonneg _)).div hunit hten (by omega) (by omega)
  have hsize : valueOf (d.mantissa % 10 ^ d.scale, d.scale) ≤ 2 ^ 199 := by
    have hmod : ((d.mantissa % 10 ^ d.scale : Nat) : ℚ) < 2 ^ 52 := by exact_mod_cast hmod
    exact (valueOf_le _ _).trans (hmod.le.trans (by norm_num))
  obtain ⟨fraction, hfraction, hrounds⟩ : ∃ z, part.div? one = some z ∧ Rounds z _ :=
    Double.div?_rounds (hunit.pos (by omega) hten).ne' (hquot.small (by omega) hsize)
  refine ⟨whole, part, one, fraction, hwhole, hpart, hone, hfraction, hW, hunit, ?_, ?_⟩
  · by_cases hnone : d.mantissa % 10 ^ d.scale = 0
    · have hzero : part.toRat / one.toRat = 0 := by rw [hP, hnone, Nat.cast_zero, zero_div]
      rw [hrounds.exact ⟨Double.zero false, by rw [hzero, Double.toRat_zero]⟩, hzero, hnone]
      rw [valueOf_zero]
      exact Close.refl (le_refl 0)
    · exact hquot.rounded hrounds (by omega) (le_valueOf hnone d.inRange.2)
  · rintro ⟨c, hc⟩ hzero
    have hfew := le_of_five_pow_dvd hM hzero ⟨c, hc⟩
    have hplaces : valueOf (d.mantissa % 10 ^ d.scale, d.scale) = (c % 2 ^ d.scale : Nat) / 2 ^ d.scale := by
      rw [← valueOf_five, ← Nat.mul_mod_mul_left, ← mul_pow, ← hc]
      rfl
    have hexact : part.toRat / one.toRat = valueOf (d.mantissa % 10 ^ d.scale, d.scale) := by
      rw [hP, hunit' hfew]
      rfl
    have hbound : c % 2 ^ d.scale < 2 ^ 53 :=
      Nat.lt_of_lt_of_le (Nat.mod_lt _ (by positivity)) (Nat.pow_le_pow_right (by norm_num) (by omega))
    obtain ⟨x, hx⟩ := Double.exists_toRat_div (k := d.scale) hbound (by omega)
    refine ⟨hunit' hfew, (hrounds.exact ⟨x, by rw [hx, hexact, hplaces]⟩).trans hexact, ?_⟩
    have hbound : c ≤ d.mantissa := by
      rw [hc]
      exact Nat.le_mul_of_pos_left c (by positivity)
    rw [hc, valueOf_five]
    exact Double.exists_toRat_div (by omega) (by omega)

/-- The conversion ends early only if there is nothing behind the point. -/
theorem valueOf_mod_eq_zero (hplaces : Close 21 fraction.toRat (valueOf (d.mantissa % 10 ^ d.scale, d.scale)))
    (h : d.scale = 0 ∨ fraction.isZero = true) : valueOf (d.mantissa % 10 ^ d.scale, d.scale) = 0 := by
  rcases h with hscale | hzero
  · rw [hscale, pow_zero, Nat.mod_one, valueOf_zero]
  · have hlow := (hplaces.bounds (by omega)).1
    rw [Double.isZero_iff.1 hzero] at hlow
    linarith [hplaces.nonneg]

theorem mantissa_ne_zero (hplaces : Close 21 fraction.toRat (valueOf (d.mantissa % 10 ^ d.scale, d.scale)))
    (h : ¬ (d.scale = 0 ∨ fraction.isZero = true)) : d.mantissa ≠ 0 := by
  intro hzero
  refine h (.inr (Double.isZero_iff.2 (abs_nonpos_iff.1 ?_)))
  have hnear := hplaces.near
  rwa [hzero, Nat.zero_mod, valueOf_zero, mul_zero, zero_div, sub_zero] at hnear

/-- **A decimal of at most 52 bits becomes a double near it**, and that of its value if it has no more binary
places than decimal ones. -/
theorem magnitude?_near (hM : d.mantissa < 2 ^ 52) : ∃ y, d.magnitude? = some y ∧
    Close 123 y.toRat (valueOf (d.mantissa, d.scale)) ∧
    (5 ^ d.scale ∣ d.mantissa → y.toRat = valueOf (d.mantissa, d.scale)) := by
  obtain ⟨whole, part, one, fraction, hwhole, hpart, hone, hfraction, hW, hunit, hplaces, hexact⟩ :=
    exists_parts hM
  rw [magnitude?_eq hwhole hpart hone hfraction]
  by_cases hdone : d.scale = 0 ∨ fraction.isZero = true
  · have hvalue : whole.toRat = valueOf (d.mantissa, d.scale) := by
      rw [valueOf_split, valueOf_mod_eq_zero hplaces hdone, hW, add_zero]
    refine ⟨whole, if_pos hdone, ?_, fun _ => hvalue⟩
    rw [hvalue]
    exact Close.refl (valueOf_nonneg _ _)
  · have hten : (0 : ℚ) < 10 ^ d.scale := by positivity
    have hM0 := mantissa_ne_zero hplaces hdone
    have hlow := le_valueOf hM0 d.inRange.2
    have hlow' : (1 : ℚ) ≤ d.mantissa := by exact_mod_cast Nat.pos_of_ne_zero hM0
    have hhigh : (d.mantissa : ℚ) < 2 ^ 52 := by exact_mod_cast hM
    have hsize : valueOf (d.mantissa, d.scale) ≤ 2 ^ 199 := (valueOf_le _ _).trans (by linarith)
    -- the sum of the whole part and the fraction
    have hadd : Close 21 (whole.toRat + fraction.toRat) (valueOf (d.mantissa, d.scale)) := by
      rw [valueOf_split, hW]
      exact (Close.refl (Nat.cast_nonneg _)).add hplaces
    obtain ⟨sum, hsum, hsumRounds⟩ := Double.add?_rounds (hadd.small (by omega) hsize)
    have hsumNear := hadd.rounded hsumRounds (by omega) hlow
    -- scaled up, and rounded to an integer
    have hmul : Close 41 (sum.toRat * one.toRat) d.mantissa := by
      rw [← valueOf_mul d.mantissa d.scale]
      exact hsumNear.mul hunit (by omega) (by omega)
    obtain ⟨scaled, hscaled, hscaledRounds⟩ := Double.mul?_rounds (hmul.small (by omega) (by linarith))
    have hscaledNear := hmul.rounded hscaledRounds (by omega) (by linarith)
    have hpos := hscaledNear.pos (by omega) (by linarith)
    obtain ⟨i, rounded, hrounded, hvalue, hinteger⟩ := Double.round?_near (x := scaled) (by
      rw [abs_of_pos hpos]
      linarith [(hscaledNear.bounds (by omega)).2])
    rw [Double.signOf_of_pos hpos, one_mul] at hvalue
    rw [abs_of_pos hpos] at hinteger
    -- and scaled down again
    have hquot : Close 113 (rounded.toRat / one.toRat) (valueOf (d.mantissa, d.scale)) := by
      rw [hvalue]
      exact (hscaledNear.integer hinteger).div hunit hten (by omega) (by omega)
    obtain ⟨result, hresult, hresultRounds⟩ : ∃ z, rounded.div? one = some z ∧ Rounds z _ :=
      Double.div?_rounds (hunit.pos (by omega) hten).ne' (hquot.small (by omega) hsize)
    refine ⟨result, ?_, hquot.rounded hresultRounds (by omega) hlow, fun hdvd => ?_⟩
    · rw [if_neg hdone, hsum, Option.bind_some, hscaled, Option.bind_some, hrounded, Option.bind_some, hresult]
    · obtain ⟨hunit, hplaces, hdouble⟩ := hexact hdvd hM0
      have hadd : whole.toRat + fraction.toRat = valueOf (d.mantissa, d.scale) := by
        rw [hW, hplaces, ← valueOf_split]
      rw [hadd] at hsumRounds
      have hmul : sum.toRat * one.toRat = d.mantissa := by
        rw [hsumRounds.exact hdouble, hunit, valueOf_mul]
      rw [hmul] at hscaledRounds
      rw [hscaledRounds.exact (Double.exists_toRat_nat (by omega))] at hinteger
      have hinteger : (i : ℚ) = d.mantissa := ((Close.refl (k := 0) (Nat.cast_nonneg _)).integer hinteger).eq
      have hquot : rounded.toRat / one.toRat = valueOf (d.mantissa, d.scale) := by
        rw [hvalue, hinteger, hunit]
        rfl
      rw [hquot] at hresultRounds
      exact hresultRounds.exact hdouble

/-- Without places the magnitude is the nearest double of the mantissa. -/
theorem magnitude?_whole (hscale : d.scale = 0) : d.magnitude? = Double.ofRatio? false d.mantissa 1 := by
  have hwholes : d.mantissa / Nat.pow 10 d.scale = d.mantissa := by
    rw [hscale]
    exact Nat.div_one _
  have hplaces : d.mantissa % Nat.pow 10 d.scale = 0 := by
    rw [hscale]
    exact Nat.mod_one _
  obtain ⟨one, hone, hunit, -⟩ := ofRatio?_ten d.inRange.2
  obtain ⟨fraction, hfraction, -⟩ : ∃ z, (Double.zero false).div? one = some z ∧ Rounds z _ :=
    Double.div?_rounds (hunit.pos (by omega) (by positivity)).ne' (by rw [Double.toRat_zero, zero_div]; norm_num)
  cases hwhole : Double.ofRatio? false d.mantissa 1 with
  | none =>
    unfold magnitude?
    simp only [hwholes, hwhole]
    rfl
  | some whole =>
    rw [magnitude?_eq (hwholes ▸ hwhole) (by rw [hplaces]; rfl) hone hfraction, if_pos (.inl hscale)]

/-- An integer becomes a double of its value, if it is one. -/
theorem magnitude?_integer (hscale : d.scale = 0) (hM : ∃ x : Double, x.toRat = d.mantissa) :
    ∃ y, d.magnitude? = some y ∧ y.toRat = d.mantissa := by
  rw [magnitude?_whole hscale]
  exact ofRatio?_nat hM

theorem toDouble?_of_nonneg (h : d.negative = false) : d.toDouble? = d.magnitude?.map Double.abs := by
  unfold toDouble?
  rw [h]
  rfl

end JsonQuery.Decimal
