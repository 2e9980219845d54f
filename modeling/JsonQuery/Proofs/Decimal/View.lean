import Mathlib
import JsonQuery.Proofs.Decimal.Settle

/-!
# The decimal view of a double, as a number

* `Decimal.viewed` — the magnitude of the view; `Decimal.toRat_of_ofDouble?` gives it its sign.
* `Decimal.viewed_mono` — greater doubles have greater views, and `Decimal.viewed_of_nat` — integers have
  their own.
* `Decimal.viewed_eq_iff` — exactly the short doubles are viewed as they are; `Decimal.abs_viewed_sub` —
  all others are viewed as something near.
-/

namespace JsonQuery.Decimal

variable {m m' k k' n : Nat}

/-! ## Binary places as decimal places -/

/-- Even mantissas are halved. -/
theorem absorb_even (n m k j : Nat) : absorb (n + j) (m * 2 ^ j) (k + j) = absorb n m k := by
  induction j with
  | zero => rw [pow_zero, mul_one, Nat.add_zero, Nat.add_zero]
  | succ j ih =>
    have heven : m * 2 ^ (j + 1) = m * 2 ^ j * 2 := by rw [pow_succ, mul_assoc]
    rw [← Nat.add_assoc, absorb, if_neg (by omega), heven, Nat.mul_div_cancel _ (by norm_num)]
    exact ih

/-- An odd mantissa is multiplied by five, as long as there is room. -/
theorem absorb_odd (hodd : m % 2 = 1) (hroom : m * 5 ^ n < 2 ^ 96) (k : Nat) :
    absorb n m k = (m * 5 ^ n, k) := by
  induction n generalizing m with
  | zero => rw [pow_zero, mul_one, absorb]
  | succ n ih =>
    have hpow : m * 5 ^ (n + 1) = 5 * m * 5 ^ n := by ring
    rw [hpow] at hroom ⊢
    have hfits : 5 * m < Nat.pow 2 96 :=
      Nat.lt_of_le_of_lt (Nat.le_mul_of_pos_right _ (by positivity)) hroom
    rw [absorb, if_pos ⟨hodd, hfits⟩, ih (by omega) hroom]

/-- The part of a value that is left when one binary place is lost. -/
def kept : ℚ := 1 - 1 / 2 ^ 93

theorem kept_le_one : kept ≤ 1 := by
  unfold kept
  norm_num

theorem kept_nonneg : 0 ≤ kept := by
  unfold kept
  norm_num

/-- Half of a number without its last binary place, which is lost only if the number is large. -/
theorem half_near (h : ¬ (m % 2 = 1 ∧ 5 * m < Nat.pow 2 96)) :
    (m : ℚ) / 2 * kept ≤ (m / 2 : Nat) ∧ ((m / 2 : Nat) : ℚ) ≤ m / 2 := by
  have hm : (0 : ℚ) ≤ m := Nat.cast_nonneg m
  rcases Nat.mod_two_eq_zero_or_one m with heven | hodd
  · have hhalf : ((m / 2 : Nat) : ℚ) = m / 2 := Nat.cast_div (Nat.dvd_of_mod_eq_zero heven) (by norm_num)
    rw [hhalf]
    exact ⟨mul_le_of_le_one_right (by positivity) kept_le_one, le_refl _⟩
  · have hlarge : 2 ^ 93 ≤ m := by
      have hroom : ¬ 5 * m < 2 ^ 96 := fun hlt => h ⟨hodd, hlt⟩
      omega
    have hlarge : (2 : ℚ) ^ 93 ≤ m := by exact_mod_cast hlarge
    have hhalf : (m : ℚ) = 2 * (m / 2 : Nat) + 1 := by exact_mod_cast (by omega : m = 2 * (m / 2) + 1)
    unfold kept
    constructor <;> linarith

/-- Absorbing binary places loses next to nothing, and only downwards. -/
theorem absorb_near (n m j : Nat) :
    (m / (2 ^ n * 10 ^ j) : ℚ) * kept ^ n ≤ valueOf (absorb n m (n + j)) ∧
      valueOf (absorb n m (n + j)) ≤ m / (2 ^ n * 10 ^ j) := by
  induction n generalizing m j with
  | zero =>
    rw [absorb, Nat.zero_add]
    unfold valueOf
    simp
  | succ n ih =>
    have hvalue : (0 : ℚ) ≤ m / (2 ^ (n + 1) * 10 ^ j) := by positivity
    rw [absorb, pow_succ kept]
    split
    · have hsame : ((5 * m : Nat) : ℚ) / (2 ^ n * 10 ^ (j + 1)) = m / (2 ^ (n + 1) * 10 ^ j) := by
        push_cast
        rw [div_eq_div_iff (by positivity) (by positivity)]
        ring
      obtain ⟨hlower, hupper⟩ := ih (5 * m) (j + 1)
      rw [hsame, show n + (j + 1) = n + 1 + j by omega] at hlower hupper
      refine ⟨le_trans ?_ hlower, hupper⟩
      rw [← mul_assoc]
      exact mul_le_of_le_one_right (mul_nonneg hvalue (pow_nonneg kept_nonneg n)) kept_le_one
    · rename_i hlost
      obtain ⟨hhalf, hhalf'⟩ := half_near hlost
      have hsame : (m : ℚ) / 2 / (2 ^ n * 10 ^ j) = m / (2 ^ (n + 1) * 10 ^ j) := by
        rw [div_div]
        ring
      obtain ⟨hlower, hupper⟩ := ih (m / 2) j
      rw [show n + 1 + j - 1 = n + j by omega]
      constructor
      · have hkept : 0 ≤ kept ^ n := pow_nonneg kept_nonneg n
        calc (m : ℚ) / (2 ^ (n + 1) * 10 ^ j) * (kept ^ n * kept)
            = m / 2 * kept / (2 ^ n * 10 ^ j) * kept ^ n := by rw [← hsame]; ring
          _ ≤ (m / 2 : Nat) / (2 ^ n * 10 ^ j) * kept ^ n := by gcongr
          _ ≤ _ := hlower
      · refine hupper.trans ?_
        rw [← hsame]
        gcongr

/-! ## The view of a double -/

variable {x y : Double}

/-- The number of binary places of a double. -/
def binaryPlaces (x : Double) : Nat := (-x.exponent).toNat

/-- The mantissa of a double with decimal places in place of the binary ones, as far as there is room. -/
def absorbed (x : Double) : Nat × Nat := absorb (binaryPlaces x) x.mantissa (binaryPlaces x)

/-- The mantissa and the places of the view of a double with binary places, but for trailing zeros. -/
def settled (x : Double) : Nat × Nat := settle (absorbed x).1 (absorbed x).2

/-- The magnitude of the decimal view of a double, or its own where it has none. -/
def viewed (x : Double) : ℚ := if 0 ≤ x.exponent then |x.toRat| else valueOf (settled x)

theorem abs_toRat_places (h : x.exponent < 0) : |x.toRat| = x.mantissa / 2 ^ binaryPlaces x := by
  have hexp : x.exponent = -(binaryPlaces x : Int) := by
    unfold binaryPlaces
    omega
  rw [Double.abs_toRat, hexp, zpow_neg, zpow_natCast, div_eq_mul_inv]

theorem parts_of_ofParts? {negative : Bool} {d : Decimal} (h : ofParts? negative m k = some d) :
    d.mantissa = m ∧ d.scale = k := by
  unfold ofParts? at h
  split at h
  · cases h
    exact ⟨rfl, rfl⟩
  · cases h

theorem toRat_of_parts {negative : Bool} {d : Decimal} (h : ofParts? negative m k = some d) :
    d.toRat = Double.signOf negative * valueOf (m, k) := by
  unfold ofParts? at h
  split at h
  · cases h
    exact toRat_signed _
  · cases h

theorem viewed_nonneg (x : Double) : 0 ≤ viewed x := by
  unfold viewed
  split
  · exact abs_nonneg _
  · exact valueOf_nonneg _ _

/-- What is absorbed is at most the double. -/
theorem absorbed_le (h : x.exponent < 0) : valueOf (absorbed x) ≤ |x.toRat| := by
  have hnear := (absorb_near (binaryPlaces x) x.mantissa 0).2
  rwa [pow_zero, mul_one, ← abs_toRat_places h] at hnear

/-- A double that is not above a natural number is not viewed above it. -/
theorem viewed_le_nat {i : Nat} (h : |x.toRat| ≤ i) : viewed x ≤ i := by
  unfold viewed
  split
  · exact h
  · rename_i hexp
    rw [← settle_integer i]
    refine settle_mono ?_
    rw [show valueOf (i, 0) = i from settle_integer i]
    exact (absorbed_le (by omega)).trans h

/-- The view of a double has its sign and the settled magnitude. -/
theorem toRat_of_ofDouble? {d : Decimal} (h : ofDouble? x = some d) :
    d.toRat = Double.signOf x.negative * viewed x := by
  unfold ofDouble? at h
  split at h
  · rename_i hzero
    have hmantissa : x.mantissa = 0 := by simpa [Double.isZero] using hzero
    have hnothing : |x.toRat| ≤ (0 : Nat) := by rw [Double.abs_toRat, hmantissa]; simp
    have hviewed : viewed x = 0 := le_antisymm (by simpa using viewed_le_nat hnothing) (viewed_nonneg x)
    cases h
    rw [hviewed, mul_zero, toRat_eq]
    unfold signed zero
    split <;> simp
  · split at h
    · rename_i hexp
      obtain ⟨n, hn⟩ := Int.eq_ofNat_of_zero_le hexp
      rw [toRat_of_parts h, viewed, if_pos hexp, Double.abs_toRat, hn]
      unfold valueOf
      simp
    · rename_i hexp
      have hparts : ofParts? x.negative (strip (settled x).1 (settled x).2).1
          (strip (settled x).1 (settled x).2).2 = some d := h
      rw [toRat_of_parts hparts, viewed, if_neg hexp]
      exact congrArg _ (strip_eq _ _)

/-- A view has a mantissa below 2^52, or no places. -/
theorem ofDouble?_short {d : Decimal} (h : ofDouble? x = some d) : d.mantissa < 2 ^ 52 ∨ d.scale = 0 := by
  unfold ofDouble? at h
  split at h
  · cases h
    exact .inr rfl
  · split at h
    · exact .inr (parts_of_ofParts? h).2
    · have hparts : ofParts? x.negative (strip (settled x).1 (settled x).2).1
          (strip (settled x).1 (settled x).2).2 = some d := h
      obtain ⟨hmantissa, hscale⟩ := parts_of_ofParts? hparts
      have hstrip := strip_le (settled x).1 (settled x).2
      have hsettled : (settled x).1 < 2 ^ 52 ∨ (settled x).2 = 0 := shorten_short _ _
      omega

/-! ## Views are monotone -/

theorem one_sub_le_kept_pow (h : n ≤ 1074) : 1 - 1 / 2 ^ 82 ≤ kept ^ n := by
  have hbernoulli : 1 + (n : ℚ) * (-(1 / 2 ^ 93)) ≤ (1 + -(1 / 2 ^ 93)) ^ n :=
    one_add_mul_le_pow (by norm_num) n
  have hn : (n : ℚ) ≤ 1074 := by exact_mod_cast h
  have hkept : kept = 1 + -(1 / 2 ^ 93) := sub_eq_add_neg _ _
  rw [hkept]
  refine le_trans ?_ hbernoulli
  norm_num
  linarith

theorem absorbed_near (h : x.exponent < 0) : |x.toRat| * (1 - 1 / 2 ^ 82) ≤ valueOf (absorbed x) := by
  have hplaces : binaryPlaces x ≤ 1074 := by
    have := x.canonical.2.1
    unfold binaryPlaces
    omega
  have hnear := (absorb_near (binaryPlaces x) x.mantissa 0).1
  rw [pow_zero, mul_one, ← abs_toRat_places h] at hnear
  exact (mul_le_mul_of_nonneg_left (one_sub_le_kept_pow hplaces) (abs_nonneg _)).trans hnear

theorem half_place (e : Int) : (2 : ℚ) ^ (e - 1) = 2 ^ e / 2 := by
  rw [zpow_sub_one₀ two_ne_zero, div_eq_mul_inv]

/-- Less than half of the last binary place is lost. -/
theorem le_absorbed (h : x.exponent < 0) : |x.toRat| - 2 ^ (x.exponent - 1) ≤ valueOf (absorbed x) := by
  refine le_trans ?_ (absorbed_near h)
  have hmantissa : (x.mantissa : ℚ) ≤ 2 ^ 53 := by exact_mod_cast Nat.le_of_lt x.canonical.1
  have hpower : (0 : ℚ) < 2 ^ x.exponent := by positivity
  have hsmall : |x.toRat| * (1 / 2 ^ 82) ≤ 2 ^ x.exponent / 2 := by
    rw [Double.abs_toRat]
    nlinarith
  rw [half_place, mul_sub, mul_one]
  linarith

/-- A double of a smaller exponent is below by at least half of the last place of the greater one, which has
full precision. -/
theorem le_sub_of_exponent_lt (h : x.exponent < y.exponent) :
    |x.toRat| ≤ |y.toRat| - 2 ^ (y.exponent - 1) := by
  have hx : x.mantissa + 1 ≤ 2 ^ 53 := x.canonical.1
  have hy : 2 ^ 52 ≤ y.mantissa := by
    rcases y.canonical.2.2.2 with hfull | hleast
    · exact hfull
    · have := x.canonical.2.1
      omega
  have hx : (x.mantissa : ℚ) + 1 ≤ 2 ^ 53 := by exact_mod_cast hx
  have hy : (2 : ℚ) ^ 52 ≤ y.mantissa := by exact_mod_cast hy
  have hpower : (0 : ℚ) < 2 ^ y.exponent := by positivity
  have hle : (2 : ℚ) ^ x.exponent ≤ 2 ^ y.exponent / 2 := by
    rw [← half_place]
    exact zpow_le_zpow_right₀ one_le_two (by omega)
  rw [Double.abs_toRat, Double.abs_toRat, half_place]
  calc (x.mantissa : ℚ) * 2 ^ x.exponent ≤ (2 ^ 53 - 1) * (2 ^ y.exponent / 2) := by
        gcongr
        linarith
    _ = 2 ^ 52 * 2 ^ y.exponent - 2 ^ y.exponent / 2 := by ring
    _ ≤ y.mantissa * 2 ^ y.exponent - 2 ^ y.exponent / 2 := by gcongr

/-- A double below another one is so by at least half of the last place of the greater one. -/
theorem le_sub_of_lt (h : |x.toRat| < |y.toRat|) : |x.toRat| ≤ |y.toRat| - 2 ^ (y.exponent - 1) := by
  rcases lt_or_ge x.exponent y.exponent with hexp | hexp
  · exact le_sub_of_exponent_lt hexp
  · -- both are multiples of the last place of the greater one
    rw [Double.abs_toRat, Double.abs_toRat] at h ⊢
    have hpower : (0 : ℚ) < 2 ^ y.exponent := by positivity
    obtain ⟨j, hj⟩ := Int.eq_ofNat_of_zero_le (Int.sub_nonneg.2 hexp)
    have hpow : (2 : ℚ) ^ x.exponent = 2 ^ j * 2 ^ y.exponent := by
      rw [← zpow_natCast, ← zpow_add₀ two_ne_zero]
      congr 1
      omega
    rw [hpow, ← mul_assoc] at h ⊢
    have hlt : (x.mantissa : ℚ) * 2 ^ j < y.mantissa := lt_of_mul_lt_mul_right h hpower.le
    have hsucc : x.mantissa * 2 ^ j + 1 ≤ y.mantissa := by exact_mod_cast hlt
    have hsucc : (x.mantissa : ℚ) * 2 ^ j + 1 ≤ y.mantissa := by exact_mod_cast hsucc
    rw [half_place]
    nlinarith

/-- The magnitude of a double has one canonical form. -/
theorem viewed_congr (h : |x.toRat| = |y.toRat|) : viewed x = viewed y := by
  have hne : ∀ {u v : Double}, |u.toRat| = |v.toRat| → ¬ u.exponent < v.exponent := by
    intro u v h hlt
    have hle := le_sub_of_exponent_lt hlt
    have hpower : (0 : ℚ) < 2 ^ (v.exponent - 1) := by positivity
    linarith
  have hexp : x.exponent = y.exponent := le_antisymm (not_lt.1 (hne h.symm)) (not_lt.1 (hne h))
  have hmantissa : x.mantissa = y.mantissa := by
    rw [Double.abs_toRat, Double.abs_toRat, hexp] at h
    exact_mod_cast mul_right_cancel₀ (by positivity) h
  unfold viewed settled absorbed binaryPlaces
  rw [h, hexp, hmantissa]

theorem pow_exponent (h : x.exponent < 0) : (2 : ℚ) ^ x.exponent = 1 / 2 ^ binaryPlaces x := by
  have hexp : x.exponent = -(binaryPlaces x : Int) := by
    unfold binaryPlaces
    omega
  rw [hexp, zpow_neg, zpow_natCast, one_div]

/-- A natural number is absorbed without a loss. -/
theorem absorbed_of_nat {i : Nat} (hexp : x.exponent < 0) (h : |x.toRat| = i) : absorbed x = (i, 0) := by
  have hmantissa : (x.mantissa : ℚ) = i * 2 ^ binaryPlaces x := by
    rw [← h, abs_toRat_places hexp]
    field_simp
  have hmantissa : x.mantissa = i * 2 ^ binaryPlaces x := by exact_mod_cast hmantissa
  have heven := absorb_even 0 i 0 (binaryPlaces x)
  rw [Nat.zero_add] at heven
  rw [absorbed, hmantissa, heven]
  rfl

/-- A double that is not below a natural number is not viewed below it. -/
theorem nat_le_viewed {i : Nat} (h : i ≤ |x.toRat|) : i ≤ viewed x := by
  unfold viewed
  split
  · exact h
  · rename_i hexp
    have hexp : x.exponent < 0 := by omega
    rcases h.eq_or_lt with heq | hlt
    · rw [settled, absorbed_of_nat hexp heq.symm, settle_integer]
    · have hlast : (i : ℚ) ≤ |x.toRat| - 2 ^ (x.exponent - 1) := by
        rw [abs_toRat_places hexp, lt_div_iff₀ (by positivity)] at hlt
        have hsucc : i * 2 ^ binaryPlaces x + 1 ≤ x.mantissa := by exact_mod_cast hlt
        have hsucc : (i : ℚ) * 2 ^ binaryPlaces x + 1 ≤ x.mantissa := by exact_mod_cast hsucc
        rw [half_place, pow_exponent hexp, abs_toRat_places hexp, div_div, ← sub_nonneg]
        field_simp
        linarith
      rw [← settle_integer i]
      refine settle_mono ?_
      rw [show valueOf (i, 0) = i from settle_integer i]
      exact hlast.trans (le_absorbed hexp)

/-- **The view is monotone.** -/
theorem viewed_mono (h : |x.toRat| ≤ |y.toRat|) : viewed x ≤ viewed y := by
  rcases h.eq_or_lt with heq | hlt
  · exact (viewed_congr heq).le
  by_cases hy : 0 ≤ y.exponent
  · obtain ⟨i, hi⟩ := Double.exists_nat hy
    rw [hi] at h
    rw [viewed.eq_def y, if_pos hy, hi]
    exact viewed_le_nat h
  by_cases hx : 0 ≤ x.exponent
  · obtain ⟨i, hi⟩ := Double.exists_nat hx
    rw [hi] at h
    rw [viewed.eq_def x, if_pos hx, hi]
    exact nat_le_viewed h
  · have habsorbed := (absorbed_le (x := x) (by omega)).trans
      ((le_sub_of_lt hlt).trans (le_absorbed (by omega)))
    rw [viewed, viewed, if_neg hx, if_neg hy]
    exact settle_mono habsorbed

/-! ## Exact views -/

/-- A number that has a decimal form with a mantissa below 2^52, or is an integer. -/
def Short (q : ℚ) : Prop := (∃ i : ℤ, q = i) ∨ ∃ (m : ℤ) (k : ℕ), |m| < 2 ^ 52 ∧ q = m / 10 ^ k

theorem short_of_abs {q : ℚ} (h : |q| = valueOf (m, k)) (hshort : m < 2 ^ 52 ∨ k = 0) : Short q := by
  have hsign : ∃ s : ℤ, |s| = m ∧ q = s / 10 ^ k := by
    unfold valueOf at h
    rcases abs_choice q with hq | hq
    · exact ⟨m, Nat.abs_cast m, by rw [← hq, h]; simp⟩
    · exact ⟨-m, by simp, by rw [hq] at h; push_cast; linarith [neg_div ((10 : ℚ) ^ k) (m : ℚ)]⟩
  obtain ⟨s, hs, hq⟩ := hsign
  rcases hshort with hm | rfl
  · exact .inr ⟨s, k, by rw [hs]; exact_mod_cast hm, hq⟩
  · exact .inl ⟨s, by simpa using hq⟩

theorem viewed_of_nat {i : Nat} (h : |x.toRat| = i) : viewed x = i :=
  le_antisymm (viewed_le_nat h.le) (nat_le_viewed h.ge)

/-- The decimal form of an odd number of binary places has as many decimal places, and no shorter one. -/
theorem short_form {odd places : Nat} (hodd : odd % 2 = 1)
    (h : (odd : ℚ) / 2 ^ places = valueOf (m, k)) : odd * 5 ^ places ≤ m := by
  have hcross : odd * 10 ^ k = m * 2 ^ places := (mul_eq_of_valueOf h.symm).symm
  have hsplit : odd * 10 ^ k = odd * 5 ^ k * 2 ^ k := by
    rw [show (10 : Nat) = 5 * 2 by norm_num, mul_pow, mul_assoc]
  have hle : places ≤ k := by
    have hcoprime : Nat.Coprime (2 ^ places) (odd * 5 ^ k) := by
      have htwo : Nat.Coprime 2 odd := (Nat.coprime_two_left).2 (Nat.odd_iff.2 hodd)
      exact Nat.Coprime.pow_left _ (htwo.mul_right (Nat.Coprime.pow_right _ (by norm_num)))
    have hdvd : 2 ^ places ∣ odd * 5 ^ k * 2 ^ k := ⟨m, by rw [← hsplit, hcross, mul_comm]⟩
    exact (Nat.pow_dvd_pow_iff_le_right (by norm_num)).1 (hcoprime.dvd_of_dvd_mul_left hdvd)
  obtain ⟨r, rfl⟩ := Nat.exists_eq_add_of_le hle
  have hm : m = odd * 5 ^ places * 10 ^ r := by
    have hpow : 0 < 2 ^ places := by positivity
    refine Nat.eq_of_mul_eq_mul_right hpow ?_
    have hten : (5 * 2) ^ places = 5 ^ places * 2 ^ places := mul_pow 5 2 places
    rw [← hcross, pow_add, hten]
    ring
  rw [hm]
  exact Nat.le_mul_of_pos_right _ (by positivity)

theorem viewed_of_short (hm : m < 2 ^ 52) (h : |x.toRat| = valueOf (m, k)) : viewed x = |x.toRat| := by
  by_cases hexp : 0 ≤ x.exponent
  · rw [viewed, if_pos hexp]
  have hneg : x.exponent < 0 := by omega
  by_cases hzero : x.mantissa = 0
  · have hnothing : |x.toRat| = (0 : Nat) := by rw [Double.abs_toRat, hzero]; simp
    rw [hnothing]
    exact viewed_of_nat hnothing
  obtain ⟨j, odd, hodd, hmantissa⟩ := Nat.exists_eq_two_pow_mul_odd hzero
  have hodd := Nat.odd_iff.1 hodd
  have habs := abs_toRat_places hneg
  rw [hmantissa] at habs
  rcases le_or_gt (binaryPlaces x) j with hle | hlt
  · -- all binary places are zero
    obtain ⟨r, rfl⟩ := Nat.exists_eq_add_of_le hle
    have hinteger : |x.toRat| = (2 ^ r * odd : Nat) := by
      rw [habs, pow_add]
      push_cast
      field_simp
    rw [hinteger]
    exact viewed_of_nat hinteger
  · obtain ⟨places, hplaces⟩ := Nat.exists_eq_add_of_le' hlt.le
    have hreduced : |x.toRat| = odd / 2 ^ places := by
      rw [habs, hplaces, pow_add]
      push_cast
      field_simp
    have hform := short_form hodd (hreduced.symm.trans h)
    have hfive : 5 ^ places ≤ odd * 5 ^ places := Nat.le_mul_of_pos_left _ (by omega)
    have hfew : places < 23 := (Nat.pow_lt_pow_iff_right (by norm_num : 1 < 5)).1 (by omega)
    have habsorbed : absorbed x = (odd * 5 ^ places, places) := by
      rw [absorbed, hplaces, hmantissa, mul_comm (2 ^ j), absorb_even]
      exact absorb_odd hodd (by omega) places
    rw [viewed, if_neg hexp, settled, habsorbed, settle_of_short (by omega) (by omega), hreduced]
    unfold valueOf
    push_cast
    rw [show (10 : ℚ) = 5 * 2 by norm_num, mul_pow]
    field_simp

/-- **Exactly the short doubles are viewed as they are.** -/
theorem viewed_eq_iff : viewed x = |x.toRat| ↔ Short x.toRat := by
  constructor
  · intro h
    by_cases hexp : 0 ≤ x.exponent
    · exact .inl (Double.exists_int hexp)
    · rw [viewed, if_neg hexp] at h
      exact short_of_abs h.symm (shorten_short _ _)
  · rintro (⟨i, hi⟩ | ⟨s, k, hs, hvalue⟩)
    · have hnat : |x.toRat| = i.natAbs := by rw [hi, Nat.cast_natAbs, Int.cast_abs]
      rw [hnat]
      exact viewed_of_nat hnat
    · have hs : s.natAbs < 2 ^ 52 := by
        rw [Int.abs_eq_natAbs] at hs
        exact_mod_cast hs
      refine viewed_of_short hs (k := k) ?_
      unfold valueOf
      rw [hvalue, abs_div, abs_of_pos (by positivity : (0 : ℚ) < 10 ^ k), Nat.cast_natAbs, Int.cast_abs]

/-- A view is near the double. -/
theorem abs_viewed_sub (x : Double) : |viewed x - (|x.toRat|)| ≤ |x.toRat| / 2 ^ 49 + 2 / 10 ^ 28 := by
  have hx := abs_nonneg x.toRat
  unfold viewed
  split
  · rw [sub_self, abs_zero]
    positivity
  · rename_i hexp
    have hexp : x.exponent < 0 := by omega
    have hsettle : |valueOf (settled x) - valueOf (absorbed x)| ≤
        valueOf (absorbed x) * (3 / 2 ^ 51) + 2 / 10 ^ 28 := abs_settle_sub _ _
    have hlower := absorbed_near hexp
    have hupper := absorbed_le hexp
    rw [abs_le] at hsettle ⊢
    constructor <;> linarith [hsettle.1, hsettle.2]

/-! ## Next to zero -/

theorem settle_99 : valueOf (settle 99 30) = 1 / 10 ^ 28 := by
  have hsettle : settle 99 30 = (1, 28) := by decide
  rw [hsettle, valueOf, Nat.cast_one]

theorem settle_94 : valueOf (settle 94 30) = 0 := by
  have hsettle : settle 94 30 = (0, 28) := by decide
  rw [hsettle, valueOf, Nat.cast_zero, zero_div]

/-- A double that is one in the 28th place, or more, is not viewed as zero. -/
theorem viewed_pos (h : 1 / 10 ^ 28 ≤ |x.toRat|) : 0 < viewed x := by
  have hone : (0 : ℚ) < 1 / 10 ^ 28 := by positivity
  by_cases hexp : 0 ≤ x.exponent
  · rw [viewed, if_pos hexp]
    exact lt_of_lt_of_le hone h
  · have hlow : valueOf (99, 30) ≤ valueOf (absorbed x) := by
      refine le_trans ?_ (absorbed_near (by omega))
      unfold valueOf
      push_cast
      linarith
    rw [viewed, if_neg hexp]
    refine lt_of_lt_of_le hone ?_
    rw [← settle_99]
    exact settle_mono hlow

/-- A double that is little less than one in the 28th place, or smaller, is viewed as zero. -/
theorem viewed_eq_zero (h : |x.toRat| ≤ 94 / 10 ^ 30) : viewed x = 0 := by
  by_cases hexp : 0 ≤ x.exponent
  · obtain ⟨i, hi⟩ := Double.exists_nat hexp
    have hlt : (i : ℚ) < 1 := by
      rw [← hi]
      exact h.trans_lt (by norm_num)
    have hzero : i = 0 := Nat.lt_one_iff.1 (by exact_mod_cast hlt)
    rw [viewed, if_pos hexp, hi, hzero, Nat.cast_zero]
  · refine le_antisymm ?_ (viewed_nonneg x)
    rw [viewed, if_neg hexp, ← settle_94]
    exact settle_mono ((absorbed_le (by omega)).trans h)

end JsonQuery.Decimal
