import Mathlib
import JsonQuery.Proofs.Decimal.Arithmetic
import JsonQuery.Proofs.Number.Rounding

/-!
# Sums

A sum is taken over the decimal views, from the left.  Each addition rounds its result to the places for which
there is room; it does not give up when there are too many.

* `Number.ofDecimal_congr` — the number of a decimal depends on its value only.
* `Number.SumsExactly` — all running totals are representable; `Number.SumsExactly.of_places` — so they are, in
  any order, if few common places are enough.
* `Number.decimalSum?_values` — such sums are exact and do not depend on the order, and all others are right
  to 93 bits for each addition.
-/

namespace JsonQuery.Number

open Decimal (Representable strip valueOf)

variable {ns ms : List Number} {d e x y : Decimal}

/-! ## Numbers of decimals -/

theorem strip_last (m s : Nat) : (strip m s).2 = 0 ∨ (strip m s).1 % 10 ≠ 0 := by
  induction s generalizing m with
  | zero => exact .inl rfl
  | succ s ih =>
    rw [strip]
    split
    · exact ih _
    · exact .inr ‹_›

theorem places_le_of_valueOf {a b j k : Nat} (h : valueOf (a, j) = valueOf (b, k)) (hlast : k = 0 ∨ b % 10 ≠ 0) :
    k ≤ j := by
  by_contra hlt
  obtain ⟨i, rfl⟩ : ∃ i, k = j + i + 1 := ⟨k - j - 1, by omega⟩
  unfold valueOf at h
  rw [div_eq_div_iff (by positivity) (by positivity)] at h
  have hcast : (a * 10 ^ (i + 1) : ℚ) = b := by
    refine mul_right_cancel₀ (b := (10 : ℚ) ^ j) (by positivity) ?_
    rw [← h]
    ring
  have hnat : a * 10 ^ i * 10 = b := by
    rw [mul_assoc, ← pow_succ]
    exact_mod_cast hcast
  omega

/-- Without trailing zeros there is one form of each value. -/
theorem strip_congr {m m' s s' : Nat} (h : valueOf (m, s) = valueOf (m', s')) : strip m s = strip m' s' := by
  rw [← Decimal.strip_eq m s, ← Decimal.strip_eq m' s'] at h
  have hle := places_le_of_valueOf h (strip_last m' s')
  have hge := places_le_of_valueOf h.symm (strip_last m s)
  have hplaces : (strip m s).2 = (strip m' s').2 := by omega
  refine Prod.ext ?_ hplaces
  unfold valueOf at h
  rw [hplaces, div_left_inj' (by positivity)] at h
  exact_mod_cast h

/-- **The number of a decimal depends on its value only.** -/
theorem ofDecimal_congr (h : x.toRat = y.toRat) : ofDecimal x = ofDecimal y := by
  have habs : valueOf (x.mantissa, x.scale) = valueOf (y.mantissa, y.scale) := by
    rw [← Decimal.abs_toRat, ← Decimal.abs_toRat, h]
  have hstrip := strip_congr habs
  by_cases hzero : (strip y.mantissa y.scale).1 = 0
  · -- the zeros of either sign are one integer
    have hzeros : ∀ z : Decimal, (strip z.mantissa z.scale).1 = 0 →
        ofDecimal z = some (integer 0 (by decide)) := by
      intro z hz
      have hscale : z.normalize.scale = 0 := (strip_last _ _).resolve_right (by rw [hz]; decide)
      have hsigned : z.normalize.signed = 0 := by
        unfold Decimal.signed
        rw [show z.normalize.mantissa = 0 from hz]
        simp
      rw [ofDecimal_of_inRange hscale (by rw [hsigned]; decide)]
      simp only [hsigned]
    rw [hzeros x (hstrip ▸ hzero), hzeros y hzero]
  · have hsign : x.negative = y.negative := by
      have hvalue : valueOf (y.mantissa, y.scale) ≠ 0 := by
        rw [← Decimal.strip_eq]
        unfold valueOf
        positivity
      rw [Decimal.toRat_signed x, Decimal.toRat_signed y, habs] at h
      have hfactor := mul_right_cancel₀ hvalue h
      revert hfactor
      cases x.negative <;> cases y.negative <;> norm_num [Double.signOf]
    have hnormal : x.normalize = y.normalize := by
      unfold Decimal.normalize
      simp only [hsign, hstrip]
    unfold ofDecimal
    rw [hnormal]

theorem toRat_zero : Decimal.zero.toRat = 0 := by
  simp [Decimal.toRat, Decimal.zero, Decimal.signed]

/-! ## Running totals -/

/-- The sum of a list, from a total on. -/
def sumFrom? (total : Decimal) (ns : List Number) : Option Decimal :=
  ns.foldlM (fun total n => n.toDecimal?.bind total.add?) total

theorem sumFrom?_cons (d : Decimal) (n : Number) (ns : List Number) :
    sumFrom? d (n :: ns) = (n.toDecimal?.bind d.add?).bind (sumFrom? · ns) := rfl

/-- A total that goes on is that of a number with a view. -/
theorem sumFrom?_cons_ok {n : Number} : sumFrom? d (n :: ns) = some e ↔
    ∃ v z, n.toDecimal? = some v ∧ d.add? v = some z ∧ sumFrom? z ns = some e := by
  rw [sumFrom?_cons, Option.bind_eq_some_iff]
  simp only [Option.bind_eq_some_iff]
  constructor
  · rintro ⟨z, ⟨v, hv, hz⟩, he⟩
    exact ⟨v, z, hv, hz, he⟩
  · rintro ⟨v, z, hv, hz, he⟩
    exact ⟨z, ⟨v, hv, hz⟩, he⟩

/-- **Representable totals are exact.** -/
theorem sumFrom?_exact (hviews : ∀ n ∈ ns, n.toDecimal? ≠ none)
    (htotals : ∀ front, front <+: ns → Representable (d.toRat + (front.map key).sum)) :
    ∃ e, sumFrom? d ns = some e ∧ e.toRat = d.toRat + (ns.map key).sum := by
  induction ns generalizing d with
  | nil => exact ⟨d, rfl, by simp⟩
  | cons n ns ih =>
    obtain ⟨v, hv⟩ := Option.ne_none_iff_exists'.1 (hviews n (by simp))
    have hkey := key_of_some hv
    have hfirst := htotals [n] (by simp)
    rw [List.map_singleton, List.sum_singleton, hkey] at hfirst
    obtain ⟨z, hz, hvalue⟩ := Decimal.add?_exact hfirst
    obtain ⟨e, he, hsum⟩ := ih (d := z) (fun m hm => hviews m (by simp [hm])) fun front hfront => by
      rw [hvalue, ← hkey, add_assoc, ← List.sum_cons, ← List.map_cons]
      exact htotals (n :: front) (List.cons_prefix_cons.2 ⟨rfl, hfront⟩)
    refine ⟨e, sumFrom?_cons_ok.2 ⟨v, z, hv, hz, he⟩, ?_⟩
    rw [hsum, hvalue, ← hkey, List.map_cons, List.sum_cons, add_assoc]

/-! ## Errors -/

/-- The sum of the magnitudes of keys. -/
def magnitudes (ns : List Number) : ℚ := (ns.map fun n => |n.key|).sum

/-- The factor by which a rounded addition may change a magnitude. -/
def growth : ℚ := 1 + 1 / 2 ^ 93

theorem one_le_growth_pow (n : Nat) : 1 ≤ growth ^ n :=
  one_le_pow₀ (by norm_num [growth])

theorem magnitudes_nonneg (ns : List Number) : 0 ≤ magnitudes ns :=
  List.sum_nonneg (by simp)

theorem magnitudes_cons (n : Number) (ns : List Number) : magnitudes (n :: ns) = |n.key| + magnitudes ns := by
  simp [magnitudes]

/-- One addition adds one rounding. -/
theorem abs_add?_le {z : Decimal} (h : x.add? y = some z) : |z.toRat| ≤ growth * (|x.toRat| + |y.toRat|) := by
  have hnear := Decimal.add?_near h
  have hsum := abs_add_le x.toRat y.toRat
  have htriangle := abs_sub_abs_le_abs_sub z.toRat (x.toRat + y.toRat)
  unfold growth
  linarith

/-- **A sum is right to 93 bits for each addition.** -/
theorem sumFrom?_near (h : sumFrom? d ns = some e) :
    |e.toRat - (d.toRat + (ns.map key).sum)| ≤ (growth ^ ns.length - 1) * (|d.toRat| + magnitudes ns) := by
  induction ns generalizing d with
  | nil =>
    cases h
    simp
  | cons n ns ih =>
    obtain ⟨v, z, hv, hz, he⟩ := sumFrom?_cons_ok.1 h
    have hkey := key_of_some hv
    have hstep := Decimal.add?_near hz
    have hsize := abs_add?_le hz
    have hrest := ih he
    have hone := abs_add_le d.toRat v.toRat
    have hpow := one_le_growth_pow ns.length
    have hmore := magnitudes_nonneg ns
    rw [magnitudes_cons, hkey, List.map_cons, List.sum_cons, hkey, List.length_cons, pow_succ]
    calc |e.toRat - (d.toRat + (v.toRat + (ns.map key).sum))|
        ≤ |e.toRat - (z.toRat + (ns.map key).sum)| + |z.toRat - (d.toRat + v.toRat)| := by
          have hsplit : e.toRat - (d.toRat + (v.toRat + (ns.map key).sum)) =
              (e.toRat - (z.toRat + (ns.map key).sum)) + (z.toRat - (d.toRat + v.toRat)) := by ring
          rw [hsplit]
          exact abs_add_le _ _
      _ ≤ (growth ^ ns.length - 1) * (growth * (|d.toRat| + |v.toRat|) + magnitudes ns) +
            (growth - 1) * (|d.toRat| + |v.toRat|) := by
          refine add_le_add (hrest.trans ?_) (hstep.trans ?_)
          · exact mul_le_mul_of_nonneg_left (by linarith) (by linarith)
          · unfold growth
            linarith
      _ ≤ (growth ^ ns.length * growth - 1) * (|d.toRat| + (|v.toRat| + magnitudes ns)) := by
          have hgrowth : (1 : ℚ) ≤ growth := by norm_num [growth]
          nlinarith [mul_nonneg (mul_nonneg (by linarith : (0 : ℚ) ≤ growth ^ ns.length) hmore)
            (sub_nonneg.2 hgrowth)]

/-- **A sum of numbers that are small together is not none.** -/
theorem sumFrom?_ne_none (hviews : ∀ n ∈ ns, n.toDecimal? ≠ none)
    (hsmall : growth ^ ns.length * (|d.toRat| + magnitudes ns) < 2 ^ 96 - 1 / 2) :
    ∃ e, sumFrom? d ns = some e := by
  induction ns generalizing d with
  | nil => exact ⟨d, rfl⟩
  | cons n ns ih =>
    obtain ⟨v, hv⟩ := Option.ne_none_iff_exists'.1 (hviews n (by simp))
    have hkey := key_of_some hv
    have hpow := one_le_growth_pow ns.length
    have hgrowth : (1 : ℚ) ≤ growth := by norm_num [growth]
    have hmore := magnitudes_nonneg ns
    have hone := abs_add_le d.toRat v.toRat
    have hsum : 0 ≤ |d.toRat| + |v.toRat| := by positivity
    rw [magnitudes_cons, hkey, List.length_cons, pow_succ, ← add_assoc] at hsmall
    have hfirst : |d.toRat| + |v.toRat| ≤ growth ^ ns.length * growth * (|d.toRat| + |v.toRat| + magnitudes ns) := by
      have hfactor : 1 ≤ growth ^ ns.length * growth := one_le_mul_of_one_le_of_one_le hpow hgrowth
      nlinarith
    cases hz : d.add? v with
    | none => linarith [Decimal.add?_eq_none.1 hz]
    | some z =>
      have hsize := abs_add?_le hz
      obtain ⟨e, he⟩ := ih (d := z) (fun m hm => hviews m (by simp [hm])) <| by
        refine lt_of_le_of_lt ?_ hsmall
        rw [mul_assoc]
        exact mul_le_mul_of_nonneg_left (by nlinarith) (by linarith)
      exact ⟨e, sumFrom?_cons_ok.2 ⟨v, z, hv, hz, he⟩⟩

/-! ## Sums without rounding -/

/-- All running totals of a list of numbers with decimal views are representable. -/
structure SumsExactly (ns : List Number) : Prop where
  viewed : ∀ n ∈ ns, n.toDecimal? ≠ none
  representable : ∀ front, front <+: ns → Representable (front.map key).sum

theorem SumsExactly.decimalSum? (h : SumsExactly ns) :
    ∃ d, decimalSum? ns = some d ∧ d.toRat = (ns.map key).sum := by
  obtain ⟨d, hd, hvalue⟩ := sumFrom?_exact (d := Decimal.zero) h.viewed fun front hfront => by
    rw [toRat_zero, zero_add]
    exact h.representable front hfront
  rw [toRat_zero, zero_add] at hvalue
  exact ⟨d, hd, hvalue⟩

/-- A sum of numbers of at most `s` places has at most `s` places. -/
theorem exists_sum_places {s : Nat} (h : ∀ n ∈ ns, ∃ i : ℤ, n.key = i / 10 ^ s) :
    ∃ i : ℤ, (ns.map key).sum = i / 10 ^ s := by
  induction ns with
  | nil => exact ⟨0, by simp⟩
  | cons n ns ih =>
    obtain ⟨i, hi⟩ := h n (by simp)
    obtain ⟨j, hj⟩ := ih fun m hm => h m (by simp [hm])
    refine ⟨i + j, ?_⟩
    rw [List.map_cons, List.sum_cons, hi, hj]
    push_cast
    ring

theorem abs_sum_le (ns : List Number) : |(ns.map key).sum| ≤ magnitudes ns := by
  induction ns with
  | nil => simp [magnitudes]
  | cons n ns ih =>
    rw [magnitudes_cons, List.map_cons, List.sum_cons]
    exact (abs_add_le _ _).trans (by linarith)

theorem magnitudes_front_le {front : List Number} (h : front <+: ns) : magnitudes front ≤ magnitudes ns := by
  obtain ⟨back, rfl⟩ := h
  have hback := magnitudes_nonneg back
  have hsplit : magnitudes (front ++ back) = magnitudes front + magnitudes back := by simp [magnitudes]
  linarith

/-- **Numbers with few common places are summed exactly**, if their magnitudes have room at these places. -/
theorem SumsExactly.of_places {s : Nat} (hs : s ≤ 28) (hviews : ∀ n ∈ ns, n.toDecimal? ≠ none)
    (hplaces : ∀ n ∈ ns, ∃ i : ℤ, n.key = i / 10 ^ s) (hroom : magnitudes ns * 10 ^ s < 2 ^ 96) :
    SumsExactly ns := by
  refine ⟨hviews, fun front hfront => ?_⟩
  have hten : (0 : ℚ) < 10 ^ s := by positivity
  obtain ⟨i, hi⟩ := exists_sum_places fun n hn => hplaces n (hfront.subset hn)
  have hsize : |(i : ℚ)| < 2 ^ 96 := by
    calc |(i : ℚ)| = |(front.map key).sum| * 10 ^ s := by
          rw [hi, abs_div, abs_of_pos hten, div_mul_cancel₀ _ hten.ne']
      _ ≤ magnitudes ns * 10 ^ s :=
          mul_le_mul_of_nonneg_right ((abs_sum_le front).trans (magnitudes_front_le hfront)) hten.le
      _ < 2 ^ 96 := hroom
  have hmantissa : i.natAbs < 2 ^ 96 := by
    rw [← Int.cast_abs, Int.abs_eq_natAbs] at hsize
    exact_mod_cast hsize
  have hvalue : (i : ℚ) / 10 ^ s = Double.signOf (decide (i < 0)) * valueOf (i.natAbs, s) := by
    rw [← Decimal.valueOf_cast, ← Decimal.div_eq_signOf]
    push_cast
    rfl
  rw [hi, hvalue]
  exact ⟨⟨decide (i < 0), i.natAbs, s, hmantissa, hs⟩, Decimal.toRat_signed _⟩

/-! ## All sums -/

/-- **The sum of a list is that of the decimal views, up to the rounding of each addition.**  It is right to 93
bits for each number; it is not none where the numbers have views and are small together, whether or not their
sum is representable; and where all running totals are representable, it is exact and does not depend on the
order. -/
theorem decimalSum?_values (ns : List Number) :
    (∀ d, decimalSum? ns = some d →
      |d.toRat - (ns.map key).sum| ≤ (growth ^ ns.length - 1) * magnitudes ns) ∧
    ((∀ n ∈ ns, n.toDecimal? ≠ none) → growth ^ ns.length * magnitudes ns < 2 ^ 96 - 1 / 2 →
      ∃ d, decimalSum? ns = some d) ∧
    (SumsExactly ns → (∃ d, decimalSum? ns = some d ∧ d.toRat = (ns.map key).sum) ∧
      ∀ ms, ms.Perm ns → SumsExactly ms → sum ms = sum ns) := by
  refine ⟨fun d hd => ?_, fun hviews hsmall => ?_, fun hexact => ⟨hexact.decimalSum?, fun ms hperm hexact' => ?_⟩⟩
  · have hnear := sumFrom?_near hd
    rwa [toRat_zero, abs_zero, zero_add, zero_add] at hnear
  · refine sumFrom?_ne_none hviews ?_
    rwa [toRat_zero, abs_zero, zero_add]
  · obtain ⟨d, hd, hvalue⟩ := hexact.decimalSum?
    obtain ⟨e, he, hvalue'⟩ := hexact'.decimalSum?
    unfold sum
    rw [hd, he]
    refine ofDecimal_congr ?_
    rw [hvalue, hvalue', (hperm.map key).sum_eq]

/-- The greatest integer and two fractions that have room beside it, in two orders; and two fractions that have
not, whose sum is rounded and depends on the order. -/
theorem decimalSum?_values_rounded :
    let most := integer 18446744073709551615 (by decide)
    let half := double ⟨false, 4503599627370496, -53, by decide⟩
    let quarter := double ⟨true, 4503599627370496, -54, by decide⟩
    let tiny := double ⟨false, 7737125245533627, -84, by decide⟩
    (SumsExactly [most, half, quarter] ∧ SumsExactly [quarter, half, most] ∧
      sum [quarter, half, most] = sum [most, half, quarter]) ∧
    (growth ^ 3 * magnitudes [most, tiny, tiny] < 2 ^ 96 - 1 / 2 ∧
      ∃ d, decimalSum? [most, tiny, tiny] = some d ∧ d.toRat ≠ ([most, tiny, tiny].map key).sum) ∧
    sum [most, tiny, tiny] ≠ sum [tiny, tiny, most] := by
  intro most half quarter tiny
  have hmost : most.key = 18446744073709551615 := key_integer _
  have hhalf : half.key = 5 / 10 := by
    rw [key_of_some (d := ⟨false, 5, 1, by decide⟩) (by decide +kernel), Decimal.toRat_eq]
    norm_num [Decimal.signed]
  have hquarter : quarter.key = -25 / 100 := by
    rw [key_of_some (d := ⟨true, 25, 2, by decide⟩) (by decide +kernel), Decimal.toRat_eq]
    norm_num [Decimal.signed]
  have htiny : tiny.key = 4 / 10 ^ 10 := by
    rw [key_of_some (d := ⟨false, 4, 10, by decide⟩) (by decide +kernel), Decimal.toRat_eq]
    norm_num [Decimal.signed]
  have hexact : ∀ ns, ns.Perm [most, half, quarter] → SumsExactly ns := by
    intro ns hperm
    have hmem : ∀ n ∈ ns, n = most ∨ n = half ∨ n = quarter := fun n hn => by
      simpa using hperm.mem_iff.1 hn
    refine SumsExactly.of_places (s := 2) (by decide) (fun n hn => ?_) (fun n hn => ?_) ?_
    · rcases hmem n hn with rfl | rfl | rfl <;> decide +kernel
    · rcases hmem n hn with rfl | rfl | rfl
      · exact ⟨1844674407370955161500, by rw [hmost]; norm_num⟩
      · exact ⟨50, by rw [hhalf]; norm_num⟩
      · exact ⟨-25, by rw [hquarter]; norm_num⟩
    · rw [magnitudes, (hperm.map _).sum_eq]
      norm_num [hmost, hhalf, hquarter]
  have hperm : [quarter, half, most].Perm [most, half, quarter] := by decide +kernel
  have hsmall : growth ^ 3 * magnitudes [most, tiny, tiny] < 2 ^ 96 - 1 / 2 := by
    norm_num [magnitudes, growth, hmost, htiny]
  refine ⟨⟨hexact _ (.refl _), hexact _ hperm, ?_⟩, ⟨hsmall, ?_⟩, ?_⟩
  · exact ((decimalSum?_values [most, half, quarter]).2.2 (hexact _ (.refl _))).2 _ hperm (hexact _ hperm)
  · obtain ⟨d, hd⟩ := (decimalSum?_values [most, tiny, tiny]).2.1 (by decide +kernel) hsmall
    refine ⟨d, hd, ?_⟩
    have hrounded : decimalSum? [most, tiny, tiny] = some ⟨false, 18446744073709551615000000000, 9, by decide⟩ := by
      decide +kernel
    rw [hd] at hrounded
    cases hrounded
    rw [Decimal.toRat_eq]
    norm_num [Decimal.signed, hmost, htiny]
  · decide +kernel

end JsonQuery.Number
