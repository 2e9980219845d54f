import Mathlib
import JsonQuery.Number.Arithmetic
import JsonQuery.Proofs.Decimal.ToDouble
import JsonQuery.Proofs.Number.Values

/-!
# Rounded numbers

* `Number.floor_eq`, `Number.ceil_eq` — the neighbouring integers are those of the key.
* `Number.abs_near` — the magnitude is near that of the key.
* `Number.rounding_values` — all three are numbers, and right up to the precision of the key.
-/

namespace JsonQuery.Number

open Decimal (Short Close valueOf)

variable {n : Number} {d : Decimal} {x : Double} {i : Int}

/-! ## Integers as numbers -/

/-- An integer that some number has as its value. -/
def Held (i : Int) : Prop := InRange i ∨ ∃ x : Double, x.toRat = i

theorem held_of_small (h : |i| ≤ 2 ^ 53) : Held i := by
  rw [abs_le] at h
  have hlow : -2 ^ 63 ≤ i := by omega
  have hhigh : i < 2 ^ 64 := by omega
  exact .inl ⟨hlow, hhigh⟩

theorem held_abs (h : Held i) : Held |i| := by
  rcases h with ⟨hlow, hhigh⟩ | ⟨x, hx⟩
  · have hlow : -2 ^ 63 ≤ i := hlow
    have hhigh : i < 2 ^ 64 := hhigh
    have hpos : -2 ^ 63 ≤ |i| := le_trans (by norm_num) (abs_nonneg i)
    have habs : |i| < 2 ^ 64 := abs_lt.2 ⟨lt_of_lt_of_le (by norm_num) hlow, hhigh⟩
    exact .inl ⟨hpos, habs⟩
  · refine .inr ⟨x.abs, ?_⟩
    rw [Double.toRat_abs, hx, Int.cast_abs]

/-- An integer is turned into a number of its value, if there is one. -/
theorem ofInt_exact (h : Held i) : ∃ n, ofInt i = some n ∧ n.toRat = i := by
  unfold ofInt ofInt?
  by_cases hrange : InRange i
  · rw [dif_pos hrange]
    exact ⟨integer i hrange, rfl, rfl⟩
  · obtain ⟨y, hy, hvalue⟩ := Double.ofInt?_exact (h.resolve_left hrange)
    rw [dif_neg hrange, hy]
    exact ⟨double y, rfl, hvalue⟩

/-- A key is an integer that is held, or small. -/
theorem key_cases (n : Number) : (∃ i : Int, n.key = i ∧ Held i) ∨ |n.key| ≤ 2 ^ 53 := by
  cases n with
  | integer i hi => exact .inl ⟨i, key_integer hi, .inl hi⟩
  | double x =>
    by_cases hexp : 0 ≤ x.exponent
    · obtain ⟨i, hi⟩ := Double.exists_int hexp
      have hkey : (double x).key = x.toRat := key_eq_iff.2 (.inl ⟨i, hi⟩)
      exact .inl ⟨i, hkey.trans hi, .inr ⟨x, hi⟩⟩
    · have hsmall : |x.toRat| < 2 ^ 53 := Double.abs_toRat_lt (by omega)
      rw [abs_lt] at hsmall
      have hlow := int_le_key (x := x) (i := -2 ^ 53) (by push_cast; exact hsmall.1.le)
      have hhigh := key_le_int (x := x) (i := 2 ^ 53) (by push_cast; exact hsmall.2.le)
      push_cast at hlow hhigh
      exact .inr (abs_le.2 ⟨hlow, hhigh⟩)

theorem held_floor (n : Number) : Held ⌊n.key⌋ := by
  rcases key_cases n with ⟨i, hi, hheld⟩ | hsmall
  · rwa [hi, Int.floor_intCast]
  · refine held_of_small ?_
    rw [abs_le] at hsmall ⊢
    constructor
    · rw [Int.le_floor]
      push_cast
      exact hsmall.1
    · have hle : ((⌊n.key⌋ : Int) : ℚ) ≤ 2 ^ 53 := (Int.floor_le _).trans hsmall.2
      exact_mod_cast hle

theorem held_ceil (n : Number) : Held ⌈n.key⌉ := by
  rcases key_cases n with ⟨i, hi, hheld⟩ | hsmall
  · rwa [hi, Int.ceil_intCast]
  · refine held_of_small ?_
    rw [abs_le] at hsmall ⊢
    constructor
    · have hle : (-2 ^ 53 : ℚ) ≤ (⌈n.key⌉ : Int) := hsmall.1.trans (Int.le_ceil _)
      exact_mod_cast hle
    · rw [Int.ceil_le]
      push_cast
      exact hsmall.2

/-! ## The neighbouring integers -/

/-- A number without a decimal view is a double without binary places, and its own key. -/
theorem eq_double_of_none (h : n.toDecimal? = none) :
    ∃ (x : Double) (i : Int), n = double x ∧ 0 ≤ x.exponent ∧ x.toRat = i ∧ n.key = i := by
  have hkey := key_of_none h
  obtain ⟨x, rfl, -⟩ := eq_double_of_toDecimal? h
  have hexp : 0 ≤ x.exponent := by
    by_contra hexp
    exact Decimal.ofDouble?_ne_none (by omega) h
  obtain ⟨i, hi⟩ := Double.exists_int hexp
  exact ⟨x, i, rfl, hexp, hi, hkey.trans hi⟩

theorem floor_decimal (d : Decimal) : d.floor = ⌊d.toRat⌋ := by
  have hpow : (0 : Int) ≤ (10 ^ d.scale : Nat) := Int.natCast_nonneg _
  have hvalue : d.toRat = (d.signed : ℚ) / (10 ^ d.scale : Nat) := by
    rw [Decimal.toRat_eq]
    push_cast
    rfl
  rw [hvalue, Rat.floor_intCast_div_natCast, ← Int.fdiv_eq_ediv_of_nonneg _ hpow]
  unfold Decimal.floor
  push_cast
  rfl

theorem ceil_decimal (d : Decimal) : d.ceil = ⌈d.toRat⌉ := by
  have hpow : (0 : Int) ≤ (10 ^ d.scale : Nat) := Int.natCast_nonneg _
  have hvalue : -d.toRat = ((-d.signed : Int) : ℚ) / (10 ^ d.scale : Nat) := by
    rw [Decimal.toRat_eq]
    push_cast
    rw [neg_div]
  rw [← neg_neg d.toRat, Int.ceil_neg, hvalue, Rat.floor_intCast_div_natCast,
    ← Int.fdiv_eq_ediv_of_nonneg _ hpow]
  unfold Decimal.ceil
  push_cast
  rfl

/-- **The greatest integer that is not above the key.** -/
theorem floor_eq (n : Number) : ∃ f, n.floor = some f ∧ f.toRat = ⌊n.key⌋ := by
  unfold floor
  cases hn : n.toDecimal? with
  | some d =>
    have hkey := key_of_some hn
    have hheld := held_floor n
    rw [hkey, ← floor_decimal] at hheld ⊢
    exact ofInt_exact hheld
  | none =>
    obtain ⟨x, i, rfl, hexp, hi, hkey⟩ := eq_double_of_none hn
    obtain ⟨y, hy, hvalue⟩ := Double.floor?_exact hexp
    refine ⟨double y, ?_, ?_⟩
    · show (x.floor?).map double = some (double y)
      rw [hy]
      rfl
    · rw [hkey, Int.floor_intCast]
      exact hvalue.trans hi

/-- **The least integer that is not below the key.** -/
theorem ceil_eq (n : Number) : ∃ c, n.ceil = some c ∧ c.toRat = ⌈n.key⌉ := by
  unfold ceil
  cases hn : n.toDecimal? with
  | some d =>
    have hkey := key_of_some hn
    have hheld := held_ceil n
    rw [hkey, ← ceil_decimal] at hheld ⊢
    exact ofInt_exact hheld
  | none =>
    obtain ⟨x, i, rfl, hexp, hi, hkey⟩ := eq_double_of_none hn
    obtain ⟨y, hy, hvalue⟩ := Double.ceil?_exact hexp
    refine ⟨double y, ?_, ?_⟩
    · show (x.ceil?).map double = some (double y)
      rw [hy]
      rfl
    · rw [hkey, Int.ceil_intCast]
      exact hvalue.trans hi

/-! ## The magnitude -/

theorem ofDecimal_of_inRange (hscale : d.normalize.scale = 0) (h : InRange d.normalize.signed) :
    ofDecimal d = some (integer d.normalize.signed h) := by
  unfold ofDecimal ofInt?
  simp only [if_pos hscale, dif_pos h]

theorem ofDecimal_otherwise (h : ¬ (d.normalize.scale = 0 ∧ InRange d.normalize.signed)) :
    ofDecimal d = d.normalize.toDouble?.map double := by
  unfold ofDecimal ofInt?
  by_cases hscale : d.normalize.scale = 0
  · simp only [if_pos hscale, dif_neg (not_and.1 h hscale)]
  · simp only [if_neg hscale]

/-- A held integer becomes a number of its value. -/
theorem ofDecimal_integer (hsign : d.negative = false) (hscale : d.normalize.scale = 0)
    (hheld : Held d.normalize.mantissa) : ∃ a, ofDecimal d = some a ∧ a.toRat = d.toRat := by
  have hsign : d.normalize.negative = false := hsign
  have hvalue : d.toRat = d.normalize.mantissa := by
    rw [← Decimal.toRat_normalize, Decimal.toRat_of_nonneg hsign, hscale, valueOf, pow_zero, div_one]
  have hsigned : d.normalize.signed = d.normalize.mantissa := by
    unfold Decimal.signed
    rw [hsign, if_neg Bool.false_ne_true]
  by_cases hrange : InRange d.normalize.signed
  · refine ⟨_, ofDecimal_of_inRange hscale hrange, ?_⟩
    rw [toRat, hsigned, hvalue, Int.cast_natCast]
  · obtain ⟨x, hx⟩ := hheld.resolve_left (hsigned ▸ hrange)
    obtain ⟨y, hy, hexact⟩ := Decimal.magnitude?_integer hscale ⟨x, by rw [hx, Int.cast_natCast]⟩
    refine ⟨double y.abs, ?_, ?_⟩
    · rw [ofDecimal_otherwise fun h => hrange h.2, Decimal.toDouble?_of_nonneg hsign, hy]
      rfl
    · rw [toRat, Double.toRat_abs, hexact, Nat.abs_cast, hvalue]

/-- **A decimal of at most 52 bits, or an integer that is held, becomes a number near it**, and that of its
value if that has finitely many binary places. -/
theorem ofDecimal_near (hsign : d.negative = false)
    (h : d.mantissa < 2 ^ 52 ∨ d.scale = 0 ∧ Held d.mantissa) :
    ∃ a, ofDecimal d = some a ∧ 0 ≤ a.toRat ∧ Close 123 a.toRat d.toRat ∧
      ((∃ m k : Nat, d.toRat = m / 2 ^ k) → a.toRat = d.toRat) := by
  have hstrip := Decimal.strip_le d.mantissa d.scale
  have hnonneg : 0 ≤ d.toRat := by
    rw [Decimal.toRat_of_nonneg hsign]
    exact Decimal.valueOf_nonneg _ _
  by_cases hscale : d.normalize.scale = 0
  · have hheld : Held d.normalize.mantissa := by
      rcases h with hsmall | ⟨hzero, hheld⟩
      · refine held_of_small ?_
        have hle : d.normalize.mantissa ≤ d.mantissa := hstrip.1
        rw [Nat.abs_cast]
        omega
      · have hsame : d.normalize.mantissa = d.mantissa := by
          show (Decimal.strip d.mantissa d.scale).1 = d.mantissa
          rw [hzero]
          rfl
        rwa [hsame]
    obtain ⟨a, ha, hvalue⟩ := ofDecimal_integer hsign hscale hheld
    refine ⟨a, ha, ?_, ?_, fun _ => hvalue⟩
    · rwa [hvalue]
    · rw [hvalue]
      exact Close.refl hnonneg
  · have hsmall : d.normalize.mantissa < 2 ^ 52 := by
      have hle : d.normalize.mantissa ≤ d.mantissa := hstrip.1
      have hle' : d.normalize.scale ≤ d.scale := hstrip.2
      rcases h with hsmall | ⟨hzero, -⟩ <;> omega
    obtain ⟨y, hy, hnear, hexact⟩ := Decimal.magnitude?_near hsmall
    have hvalue : valueOf (d.normalize.mantissa, d.normalize.scale) = d.toRat := by
      rw [← Decimal.toRat_of_nonneg (d := d.normalize) hsign, Decimal.toRat_normalize]
    rw [hvalue] at hnear hexact
    have hpos : 0 ≤ y.toRat := le_trans (mul_nonneg hnonneg (by norm_num)) (hnear.bounds (by omega)).1
    have habs : (double y.abs).toRat = y.toRat := (Double.toRat_abs y).trans (abs_of_nonneg hpos)
    refine ⟨double y.abs, ?_, ?_, ?_, ?_⟩
    · rw [ofDecimal_otherwise fun h => hscale h.1, Decimal.toDouble?_of_nonneg (d := d.normalize) hsign, hy]
      rfl
    · rwa [habs]
    · rwa [habs]
    · rintro ⟨m, k, hplaces⟩
      rw [habs]
      exact hexact (Decimal.five_pow_dvd (hvalue.trans hplaces))

/-- A decimal view has a mantissa below 2^52, or is an integer that is held. -/
theorem toDecimal?_short (h : n.toDecimal? = some d) :
    d.mantissa < 2 ^ 52 ∨ d.scale = 0 ∧ Held d.mantissa := by
  have hshort : d.mantissa < 2 ^ 52 ∨ d.scale = 0 := by
    cases n with
    | integer i hi => exact .inr (Decimal.parts_of_ofParts? h).2
    | double x => exact Decimal.ofDouble?_short h
  refine hshort.imp_right fun hscale => ⟨hscale, ?_⟩
  have hkey : |n.key| = d.mantissa := by
    rw [key_of_some h, ← Decimal.toRat_abs, Decimal.toRat_of_nonneg (d := d.abs) rfl]
    show valueOf (d.mantissa, d.scale) = d.mantissa
    rw [hscale, valueOf, pow_zero, div_one]
  rcases key_cases n with ⟨i, hi, hheld⟩ | hsmall
  · have habs : (d.mantissa : Int) = |i| := by
      rw [hi] at hkey
      exact_mod_cast hkey.symm
    rw [habs]
    exact held_abs hheld
  · refine held_of_small ?_
    rw [hkey] at hsmall
    rw [Nat.abs_cast]
    exact_mod_cast hsmall

theorem exists_places (n : Number) : ∃ m k : Nat, |n.toRat| = m / 2 ^ k := by
  cases n with
  | integer i hi =>
    refine ⟨i.natAbs, 0, ?_⟩
    rw [toRat, pow_zero, div_one, Nat.cast_natAbs, Int.cast_abs]
  | double x => exact x.exists_places

/-- **The magnitude is near that of the key**, and that of the number if it is short. -/
theorem abs_near (n : Number) : ∃ a, n.abs = some a ∧ 0 ≤ a.toRat ∧ Close 123 a.toRat |n.key| ∧
    (Short n.toRat → a.toRat = |n.toRat|) := by
  unfold abs
  cases hn : n.toDecimal? with
  | some d =>
    have hkey := key_of_some hn
    have hshort := toDecimal?_short hn
    obtain ⟨a, ha, hnonneg, hnear, hexact⟩ := ofDecimal_near (d := d.abs) rfl hshort
    rw [Decimal.toRat_abs, ← hkey] at hnear hexact
    refine ⟨a, ha, hnonneg, hnear, fun hshort => ?_⟩
    rw [key_eq_iff.2 hshort] at hexact
    exact hexact n.exists_places
  | none =>
    have hkey := key_of_none hn
    obtain ⟨x, -, rfl, -⟩ := eq_double_of_none hn
    have habs : (double x.abs).toRat = |(double x).toRat| := Double.toRat_abs x
    refine ⟨double x.abs, rfl, ?_, ?_, fun _ => habs⟩
    · rw [habs]
      exact abs_nonneg _
    · rw [habs, hkey]
      exact Close.refl (abs_nonneg _)

/-! ## All three -/

/-- A key is between the integers next to its number. -/
theorem floor_le_key (n : Number) : ⌊n.toRat⌋ ≤ n.key := by
  cases n with
  | integer i hi => rw [key_integer, toRat, Int.floor_intCast]
  | double x => exact int_le_key (Int.floor_le _)

theorem key_le_ceil (n : Number) : n.key ≤ ⌈n.toRat⌉ := by
  cases n with
  | integer i hi => rw [key_integer, toRat, Int.ceil_intCast]
  | double x => exact key_le_int (Int.le_ceil _)

/-- The greatest integer that is not above the key is the one not above the number, unless the key is up at the
next integer. -/
theorem floor_key (n : Number) : ⌊n.key⌋ = ⌊n.toRat⌋ ∨ ⌊n.key⌋ = ⌈n.toRat⌉ ∧ n.key = ⌈n.toRat⌉ := by
  rcases (key_le_ceil n).lt_or_eq with hlt | heq
  · refine .inl (le_antisymm ?_ (Int.le_floor.2 (floor_le_key n)))
    have hlt : ⌊n.key⌋ < ⌈n.toRat⌉ := by exact_mod_cast (Int.floor_le n.key).trans_lt hlt
    have hnext := Int.ceil_le_floor_add_one n.toRat
    omega
  · exact .inr ⟨by rw [heq, Int.floor_intCast], heq⟩

theorem ceil_key (n : Number) : ⌈n.key⌉ = ⌈n.toRat⌉ ∨ ⌈n.key⌉ = ⌊n.toRat⌋ ∧ n.key = ⌊n.toRat⌋ := by
  rcases (floor_le_key n).lt_or_eq with hlt | heq
  · refine .inl (le_antisymm (Int.ceil_le.2 (key_le_ceil n)) ?_)
    have hlt : ⌊n.toRat⌋ < ⌈n.key⌉ := by exact_mod_cast hlt.trans_le (Int.le_ceil n.key)
    have hnext := Int.ceil_le_floor_add_one n.toRat
    omega
  · exact .inr ⟨by rw [← heq, Int.ceil_intCast], heq.symm⟩

/-- **Rounding is right up to the precision of keys.**  Every number has a floor, a ceiling and a magnitude.
The floor is that of the value, or the integer above if the value is next to that one; so with the ceiling and
the integer below.  The magnitude is not negative, and near that of the value.  All three are right if the
number is short. -/
theorem rounding_values (n : Number) : ∃ f c a, n.floor = some f ∧ n.ceil = some c ∧ n.abs = some a ∧
    (f.toRat = ⌊n.toRat⌋ ∨ f.toRat = ⌈n.toRat⌉ ∧ ⌈n.toRat⌉ - n.toRat ≤ viewError n.toRat) ∧
    (c.toRat = ⌈n.toRat⌉ ∨ c.toRat = ⌊n.toRat⌋ ∧ n.toRat - ⌊n.toRat⌋ ≤ viewError n.toRat) ∧
    0 ≤ a.toRat ∧ |a.toRat - (|n.toRat|)| ≤ |n.toRat| / 2 ^ 48 + 3 / 10 ^ 28 ∧
    (Short n.toRat → f.toRat = ⌊n.toRat⌋ ∧ c.toRat = ⌈n.toRat⌉ ∧ a.toRat = |n.toRat|) := by
  obtain ⟨f, hf, hfloor⟩ := floor_eq n
  obtain ⟨c, hc, hceil⟩ := ceil_eq n
  obtain ⟨a, ha, hnonneg, hnear, hexact⟩ := abs_near n
  have hkey := abs_key_sub n
  refine ⟨f, c, a, hf, hc, ha, ?_, ?_, hnonneg, ?_, fun hshort => ?_⟩
  · rw [hfloor]
    refine (floor_key n).imp (congrArg _) fun ⟨heq, hup⟩ => ⟨congrArg _ heq, ?_⟩
    rw [← hup]
    exact (le_abs_self _).trans hkey
  · rw [hceil]
    refine (ceil_key n).imp (congrArg _) fun ⟨heq, hdown⟩ => ⟨congrArg _ heq, ?_⟩
    rw [← hdown]
    rw [abs_sub_comm] at hkey
    exact (le_abs_self _).trans hkey
  · have hkeys : |(|n.key|) - (|n.toRat|)| ≤ |n.toRat| / 2 ^ 49 + 2 / 10 ^ 28 :=
      (abs_abs_sub_abs_le_abs_sub _ _).trans hkey
    have hnear : |a.toRat - (|n.key|)| ≤ 123 * |n.key| / 2 ^ 56 := by exact_mod_cast hnear.near
    have hsize := (abs_le.1 hkeys).2
    have hvalue := abs_nonneg n.toRat
    calc |a.toRat - (|n.toRat|)| ≤ |a.toRat - (|n.key|)| + |(|n.key|) - (|n.toRat|)| := abs_sub_le _ _ _
      _ ≤ 123 * |n.key| / 2 ^ 56 + (|n.toRat| / 2 ^ 49 + 2 / 10 ^ 28) := add_le_add hnear hkeys
      _ ≤ |n.toRat| / 2 ^ 48 + 3 / 10 ^ 28 := by linarith
  · have hsame := key_eq_iff.2 hshort
    rw [hfloor, hceil, hsame]
    exact ⟨rfl, rfl, hexact hshort⟩

/-- The greatest double below one has one as its floor, and is next to it. -/
theorem rounding_values_below_one :
    floor (double ⟨false, 9007199254740991, -53, by decide⟩) = some (integer 1 (by decide)) ∧
      0 < 1 - (double ⟨false, 9007199254740991, -53, by decide⟩).toRat ∧
      1 - (double ⟨false, 9007199254740991, -53, by decide⟩).toRat ≤
        viewError (double ⟨false, 9007199254740991, -53, by decide⟩).toRat := by
  have hvalue : (double ⟨false, 9007199254740991, -53, by decide⟩).toRat = 9007199254740991 / 2 ^ 53 := by
    simp [toRat, Double.toRat, Double.twoPow_eq, div_eq_mul_inv]
  have hfloor : floor (double ⟨false, 9007199254740991, -53, by decide⟩) = some (integer 1 (by decide)) := by
    decide +kernel
  obtain ⟨f, -, -, hf, -, -, hdown, -⟩ :=
    rounding_values (double ⟨false, 9007199254740991, -53, by decide⟩)
  rw [hfloor, Option.some.injEq] at hf
  subst hf
  have hceil : ⌈(double ⟨false, 9007199254740991, -53, by decide⟩).toRat⌉ = 1 := by
    rw [hvalue, Int.ceil_eq_iff]
    norm_num
  have hfloor' : ⌊(double ⟨false, 9007199254740991, -53, by decide⟩).toRat⌋ = 0 := by
    rw [hvalue, Int.floor_eq_iff]
    norm_num
  rw [hceil, hfloor', Int.cast_one] at hdown
  have hnext := (hdown.resolve_left (by simp [toRat])).2
  exact ⟨hfloor, by rw [hvalue]; norm_num, hnext⟩

end JsonQuery.Number
