import Mathlib
import JsonQuery.Proofs.Double.Closest
import JsonQuery.Proofs.Number.Sum

/-!
# Sums and means of integers

The sum of fewer than 2^32 integers has at most 96 bits, whatever the order in which they are added.

* `Number.ofIntegers`, `Number.total` — integers as numbers, and their exact sum.
* `Number.decimalSum?_integers` — the decimal sum is the exact one.
* `Number.sum_integers` — so the sum is the integer, or the double next to it, a mean that is an integer is
  that integer, and the order does not matter.
-/

namespace JsonQuery

namespace Double

variable {x : Double}

/-- The sign of the nearest double is given beside the quotient. -/
theorem ofRatio?_sign (negative : Bool) (num den : Nat) :
    (ofRatio? false num den).map (fun x => { x with negative := negative }) = ofRatio? negative num den := by
  have hparts : ∀ m e, (ofParts? false m e).map (fun x => { x with negative := negative }) =
      ofParts? negative m e := by
    intro m e
    unfold ofParts?
    split <;> rfl
  by_cases hnum : num = 0
  · subst hnum
    rfl
  · rw [ofRatio?_eq hnum rfl, ofRatio?_eq hnum rfl]
    split <;> exact hparts _ _

/-- The nearest double of an integer is the closest one to it. -/
theorem ofInt?_closest {i : Int} (h : ofInt? i = some x) : x.Closest i := by
  have hvalue := Decimal.div_eq_signOf i 1
  have hclosest := ofRatio?_closest one_ne_zero h
  rw [← hvalue, Nat.cast_one, div_one] at hclosest
  exact hclosest

/-- An integer of 96 bits has a nearest double. -/
theorem exists_ofInt? {i : Int} (h : i.natAbs < 2 ^ 96) : ∃ x, ofInt? i = some x := by
  have hlog : i.natAbs.log2 < 1023 := by
    by_cases hzero : i.natAbs = 0
    · simp [hzero]
    · exact ((Nat.log2_lt hzero).2 h).trans (by norm_num)
  obtain ⟨x, hx, -⟩ := ofRatio?_one (decide (i < 0)) hlog
  exact ⟨x, hx⟩

end Double

namespace Decimal

variable {a b : Int} {d x y : Decimal}

theorem parts_of_ofInt? (h : ofInt? a = some x) : x.negative = decide (a < 0) ∧ x.scale = 0 ∧ x.signed = a := by
  unfold ofInt? ofParts? at h
  split at h
  · cases h
    refine ⟨rfl, rfl, ?_⟩
    unfold signed
    simp only [decide_eq_true_eq]
    split <;> omega
  · cases h

/-- The sum of integers is their decimal sum. -/
theorem add?_integer (hx : ofInt? a = some x) (hy : ofInt? b = some y) : x.add? y = ofInt? (a + b) := by
  obtain ⟨-, hscale, hsigned⟩ := parts_of_ofInt? hx
  obtain ⟨-, hscale', hsigned'⟩ := parts_of_ofInt? hy
  have hwhole : a * Int.pow 10 (max 0 0 - 0) + b * Int.pow 10 (max 0 0 - 0) = a + b := by
    show a * 1 + b * 1 = a + b
    omega
  unfold add?
  simp only [hscale, hscale', hsigned, hsigned', hwhole]
  show ofParts? _ (Double.roundHalfEven (a + b).natAbs 1) 0 = ofInt? (a + b)
  rw [Double.roundHalfEven_one]
  rfl

theorem normalize_whole (h : d.scale = 0) : d.normalize = d := by
  obtain ⟨negative, mantissa, scale, hrange⟩ := d
  cases h
  rfl

/-- An integer as a decimal becomes the double of that integer. -/
theorem toDouble?_integer (h : ofInt? a = some d) : d.toDouble? = Double.ofInt? a := by
  obtain ⟨hsign, hscale, -⟩ := parts_of_ofInt? h
  obtain ⟨hmantissa, -⟩ := parts_of_ofParts? h
  unfold toDouble?
  rw [magnitude?_whole hscale, hmantissa, hsign]
  exact Double.ofRatio?_sign _ _ _

end Decimal

namespace Number

variable {a : Int} {d : Decimal}

/-- An integer as a decimal is turned into the number of that integer. -/
theorem ofDecimal_ofInt? (h : Decimal.ofInt? a = some d) : ofDecimal d = ofInt a := by
  obtain ⟨-, hscale, hsigned⟩ := Decimal.parts_of_ofInt? h
  unfold ofDecimal ofInt
  simp only [Decimal.normalize_whole hscale, hscale, hsigned, Decimal.toDouble?_integer h, if_true]

/-- A whole decimal is turned into the integer that it is. -/
theorem ofDecimal_whole (hscale : d.scale = 0) (h : InRange d.signed) :
    ofDecimal d = some (integer d.signed h) := by
  unfold ofDecimal ofInt?
  simp only [Decimal.normalize_whole hscale, hscale, if_true, dif_pos h]

theorem ofInt_of_inRange (h : InRange a) : ofInt a = some (integer a h) := by
  unfold ofInt ofInt?
  rw [dif_pos h]

/-! ## Integers as numbers -/

/-- Integers as numbers. -/
def ofIntegers (is : List { i : Int // InRange i }) : List Number := is.map fun i => integer i.1 i.2

/-- The exact sum of integers. -/
def total (is : List { i : Int // InRange i }) : Int := (is.map Subtype.val).sum

theorem total_perm {is js : List { i : Int // InRange i }} (h : js.Perm is) : total js = total is :=
  (h.map _).sum_eq

/-- The running totals of integers, while there is room for as many of the largest. -/
theorem sumFrom?_integers (is : List { i : Int // InRange i }) (hd : Decimal.ofInt? a = some d)
    (hroom : a.natAbs + is.length * 2 ^ 64 < 2 ^ 96) :
    ∃ e, sumFrom? d (ofIntegers is) = some e ∧ Decimal.ofInt? (a + total is) = some e := by
  induction is generalizing a d with
  | nil => exact ⟨d, rfl, by rw [total, List.map_nil, List.sum_nil, add_zero, hd]⟩
  | cons i is ih =>
    have hsize := natAbs_le_of_inRange i.2
    rw [List.length_cons] at hroom
    obtain ⟨v, hv, -⟩ := Decimal.ofInt?_ok (i := i.1) (by omega)
    obtain ⟨z, hz, -⟩ := Decimal.ofInt?_ok (i := a + i.1) (by omega)
    obtain ⟨e, he, htotal⟩ := ih hz (by omega)
    refine ⟨e, sumFrom?_cons_ok.2 ⟨v, z, hv, (Decimal.add?_integer hd hv).trans hz, he⟩, ?_⟩
    rw [← htotal, total, List.map_cons, List.sum_cons, ← add_assoc]
    rfl

/-- **The decimal sum of fewer than 2^32 integers is the exact one.** -/
theorem decimalSum?_integers (is : List { i : Int // InRange i }) (hlength : is.length < 2 ^ 32) :
    ∃ d, decimalSum? (ofIntegers is) = some d ∧ Decimal.ofInt? (total is) = some d := by
  obtain ⟨d, hd, htotal⟩ := sumFrom?_integers is (a := 0) (d := Decimal.zero) rfl (by omega)
  rw [zero_add] at htotal
  exact ⟨d, hd, htotal⟩

/-- The mean of integers comes from their decimal sum. -/
theorem avg_integers (is : List { i : Int // InRange i }) (hne : is ≠ [])
    (hd : decimalSum? (ofIntegers is) = some d) : ∃ z, d.divNat? is.length = some z ∧ avg (ofIntegers is) = ofDecimal z := by
  have hcount : is.length ≠ 0 := by rwa [Ne, List.length_eq_zero_iff]
  obtain ⟨z, hz⟩ := Option.ne_none_iff_exists'.1 (Decimal.divNat?_ne_none (x := d) hcount)
  refine ⟨z, hz, ?_⟩
  unfold avg
  rw [hd, Option.bind_some, ofIntegers, List.length_map, hz]

/-- **Sums and means of integers are exact.**  The sum of fewer than 2^32 integers is the integer that they sum
to, if that is one of a number, and else the double closest to it; their mean is an integer of a number if it is
one; and neither depends on the order. -/
theorem sum_integers (is : List { i : Int // InRange i }) (hne : is ≠ []) (hlength : is.length < 2 ^ 32) :
    (∀ h : InRange (total is), sum (ofIntegers is) = some (integer (total is) h)) ∧
    (¬ InRange (total is) → ∃ x, sum (ofIntegers is) = some (double x) ∧ x.Closest (total is)) ∧
    (∀ q, ∀ h : InRange q, total is = is.length * q → avg (ofIntegers is) = some (integer q h)) ∧
    (∀ js, js.Perm is → sum (ofIntegers js) = sum (ofIntegers is) ∧ avg (ofIntegers js) = avg (ofIntegers is)) := by
  obtain ⟨d, hd, htotal⟩ := decimalSum?_integers is hlength
  have hsum : sum (ofIntegers is) = ofInt (total is) := by
    unfold sum
    rw [hd]
    exact ofDecimal_ofInt? htotal
  obtain ⟨hmantissa, -⟩ := Decimal.parts_of_ofParts? htotal
  have hlarge : (total is).natAbs < 2 ^ 96 := hmantissa ▸ d.inRange.1
  refine ⟨fun h => ?_, fun h => ?_, fun q h hq => ?_, fun js hperm => ?_⟩
  · rw [hsum]
    exact ofInt_of_inRange h
  · obtain ⟨x, hx⟩ := Double.exists_ofInt? hlarge
    refine ⟨x, ?_, Double.ofInt?_closest hx⟩
    rw [hsum]
    unfold ofInt ofInt?
    rw [dif_neg h, hx]
    rfl
  · have hcount : (is.length : ℚ) ≠ 0 := by
      rwa [Ne, Nat.cast_eq_zero, List.length_eq_zero_iff]
    obtain ⟨t, ht, htvalue⟩ := Decimal.ofInt?_ok hlarge
    cases ht.symm.trans htotal
    have hsize := natAbs_le_of_inRange h
    obtain ⟨e, he, hevalue⟩ := Decimal.ofInt?_ok (i := q) (by omega)
    have hquot : d.toRat / is.length = e.toRat := by
      rw [htvalue, hevalue, hq, Int.cast_mul, Int.cast_natCast, mul_div_cancel_left₀ _ hcount]
    obtain ⟨y, hy, hyvalue⟩ := Decimal.divNat?_exact (by exact_mod_cast hcount) ⟨e, hquot.symm⟩
    obtain ⟨z, hz, havg⟩ := avg_integers is hne hd
    cases hz.symm.trans hy
    rw [havg, ofDecimal_congr (hyvalue.trans hquot), ofDecimal_ofInt? he]
    exact ofInt_of_inRange h
  · obtain ⟨d', hd', htotal'⟩ := decimalSum?_integers js (by rwa [hperm.length_eq])
    rw [total_perm hperm] at htotal'
    cases htotal'.symm.trans htotal
    obtain ⟨z, hz, havg⟩ := avg_integers is hne hd
    obtain ⟨z', hz', havg'⟩ := avg_integers js (fun hnil => hne (List.nil_perm.1 (hnil ▸ hperm))) hd'
    rw [hperm.length_eq] at hz'
    cases hz'.symm.trans hz
    refine ⟨?_, havg'.trans havg.symm⟩
    unfold sum
    rw [hd, hd']

/-- The greatest integer twice, whose sum is beyond all integers; and with the least integer twice behind it, where
the running totals are beyond all integers and come back, and in another order are not. -/
theorem sum_integers_back :
    let most : { i : Int // InRange i } := ⟨18446744073709551615, by decide⟩
    let least : { i : Int // InRange i } := ⟨-9223372036854775808, by decide⟩
    ([most, most] ≠ [] ∧ [most, most].length < 2 ^ 32 ∧ ¬ InRange (total [most, most]) ∧
      total [most, most] = [most, most].length * most.1 ∧
      (∃ x, sum (ofIntegers [most, most]) = some (double x) ∧ x.Closest 36893488147419103230) ∧
      avg (ofIntegers [most, most]) = some (integer 18446744073709551615 (by decide))) ∧
    [most, most, least, least] ≠ [] ∧ [most, most, least, least].length < 2 ^ 32 ∧
      sum (ofIntegers [most, most, least, least]) = some (integer 18446744073709551614 (by decide)) ∧
      [most, least, most, least].Perm [most, most, least, least] ∧
      sum (ofIntegers [most, least, most, least]) = sum (ofIntegers [most, most, least, least]) := by
  intro most least
  have htwice := sum_integers [most, most] (by simp) (by decide)
  have hback := sum_integers [most, most, least, least] (by simp) (by decide)
  have hperm : [most, least, most, least].Perm [most, most, least, least] := .cons _ (.swap _ _ _)
  have hbeyond : ¬ InRange (total [most, most]) := by decide
  have hmean : total [most, most] = [most, most].length * most.1 := by decide
  obtain ⟨x, hx, hclosest⟩ := htwice.2.1 hbeyond
  refine ⟨⟨by simp, by decide, hbeyond, hmean, ⟨x, hx, ?_⟩, htwice.2.2.1 _ most.2 hmean⟩, by simp, by decide,
    hback.1 (by decide), hperm, (hback.2.2.2 _ hperm).1⟩
  have htotal : total [most, most] = 36893488147419103230 := by decide
  rw [htotal] at hclosest
  exact_mod_cast hclosest

end Number

end JsonQuery
