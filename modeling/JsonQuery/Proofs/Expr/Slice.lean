import Mathlib
import JsonQuery.Proofs.Machine.Slices

/-!
# What a slice selects

A slice selects an arithmetic progression of places.

* `Slice.progression` — the numbers from a start in equal steps up to before a stop.
* `Slice.endpoint`, `Slice.begins`, `Slice.ends` — an end of a slice brought into the range that the
  direction of the step allows, and the two ends with what a missing one stands for.
* `Slice.upward_eq`, `Slice.downward_eq` — the walks between two ends are progressions.
* `Slice.indices_eq_progression` — so are the places of a slice, also where they are walked in machine
  words.
-/

namespace JsonQuery.Slice

/-! ## Definitions -/

/-- The number of steps of a length above zero until a distance is used up. -/
def stepsWithin (distance step : Int) : Nat := ((distance + step - 1) / step).toNat

/-- The first `count` numbers from `start` on in equal steps. -/
def terms (start step : Int) (count : Nat) : List Int :=
  (List.range count).map fun k : Nat => start + k * step

/-- The numbers from `start` on in equal steps, those before `stop` in the direction of the step. -/
def progression (start stop step : Int) : List Int :=
  terms start step (if 0 < step then stepsWithin (stop - start) step else stepsWithin (start - stop) (-step))

example : progression 1 8 3 = [1, 4, 7] ∧ progression 5 0 (-2) = [5, 3, 1] ∧ progression 2 2 1 = [] := by
  decide

/-- The least number that an end stands for. -/
def least (step : Int) : Int := if step < 0 then -1 else 0

/-- The greatest number that an end stands for. -/
def greatest (length step : Int) : Int := if step < 0 then length - 1 else length

/-- The number that an end stands for: one below zero counts from the back, and the result is brought
into the range of the step's direction. -/
def endpoint (length step e : Int) : Int :=
  max (least step) (min (greatest length step) (if e < 0 then e + length else e))

/-- Where a slice begins; without a start at the end that the step leads away from. -/
def begins (s : Slice) (length : Int) : Int :=
  match s.start with
  | some e => endpoint length s.step.toInt e.toInt
  | none => if s.step.toInt < 0 then greatest length s.step.toInt else least s.step.toInt

/-- Where a slice ends; without a stop at the end that the step leads to. -/
def ends (s : Slice) (length : Int) : Int :=
  match s.stop with
  | some e => endpoint length s.step.toInt e.toInt
  | none => if s.step.toInt < 0 then least s.step.toInt else greatest length s.step.toInt

/-! ## Ends -/

theorem clamp_eq_endpoint (length : Nat) (step e : Int) : clamp length step e = endpoint length step e := by
  unfold clamp endpoint least greatest
  split <;> split <;> (try split) <;> omega

theorem first_eq_begins (s : Slice) (length : Nat) : s.first length = s.begins length := by
  unfold first begins
  cases s.start with
  | some e => exact clamp_eq_endpoint length _ _
  | none =>
    dsimp only [greatest, least]
    split <;> rfl

theorem last_eq_ends (s : Slice) (length : Nat) : s.last length = s.ends length := by
  unfold last ends
  cases s.stop with
  | some e => exact clamp_eq_endpoint length _ _
  | none =>
    dsimp only [greatest, least]
    split <;> rfl

/-! ## Walks -/

variable {start stop step : Int}

/-- A step is one of them if its start lies before the end of the distance. -/
theorem lt_stepsWithin {distance : Int} (hstep : 0 < step) (k : Nat) :
    k < stepsWithin distance step ↔ k * step < distance := by
  have hmul : ((k : Int) + 1) * step = k * step + step := by ring
  have hquotient : (k : Int) + 1 ≤ (distance + step - 1) / step ↔ k * step < distance := by
    rw [Int.le_ediv_iff_mul_le hstep, hmul]
    omega
  rw [← hquotient]
  unfold stepsWithin
  omega

theorem stepsWithin_of_nonpos {distance : Int} (hstep : 0 < step) (h : distance ≤ 0) :
    stepsWithin distance step = 0 := by
  have hnone : 0 < stepsWithin distance step ↔ ((0 : Nat) : Int) * step < distance := lt_stepsWithin hstep 0
  rw [Nat.cast_zero, zero_mul] at hnone
  omega

theorem stepsWithin_of_pos {distance : Int} (hstep : 0 < step) (h : 0 < distance) :
    stepsWithin distance step = stepsWithin (distance - step) step + 1 := by
  refine eq_of_forall_lt_iff fun k => ?_
  rw [lt_stepsWithin hstep]
  cases k with
  | zero => simpa using h
  | succ k =>
    rw [Nat.add_lt_add_iff_right, lt_stepsWithin hstep, Nat.cast_succ, add_mul, one_mul]
    omega

/-- The terms behind the first start one step further. -/
theorem terms_succ (start step : Int) (n : Nat) :
    terms start step (n + 1) = start :: terms (start + step) step n := by
  unfold terms
  rw [List.range_succ_eq_map, List.map_cons, List.map_map]
  congr 1
  · simp
  · refine List.map_congr_left fun k _ => ?_
    simp only [Function.comp_apply, Nat.cast_succ]
    ring

/-- A walk upwards from a place is a progression. -/
theorem upward_eq (hstep : 0 < step) (hstart : 0 ≤ start) :
    (upward step stop start).map Int.ofNat = progression start stop step := by
  unfold progression
  rw [if_pos hstep]
  induction start using upward.induct step stop with
  | case1 start hgo ih =>
    have hcount : stop - start - step = stop - (start + step) := by ring
    rw [upward, if_pos hgo, stepsWithin_of_pos hstep (by omega), terms_succ, List.map_cons,
      ih (by omega), hcount]
    congr 1
    exact Int.toNat_of_nonneg hstart
  | case2 start hend =>
    rw [upward, if_neg hend, stepsWithin_of_nonpos hstep (by omega)]
    rfl

/-- A walk downwards to a place, or to before the first, is a progression. -/
theorem downward_eq (hstep : step < 0) (hstop : -1 ≤ stop) :
    (downward step stop start).map Int.ofNat = progression start stop step := by
  unfold progression
  rw [if_neg (by omega)]
  induction start using downward.induct step stop with
  | case1 start hgo ih =>
    have hcount : start - stop - -step = start + step - stop := by ring
    rw [downward, if_pos hgo, stepsWithin_of_pos (by omega) (by omega), terms_succ, List.map_cons,
      ih, hcount]
    congr 1
    exact Int.toNat_of_nonneg (by omega)
  | case2 start hend =>
    rw [downward, if_neg hend, stepsWithin_of_nonpos (by omega) (by omega)]
    rfl

/-- Neighbours in a progression differ by the step. -/
theorem isChain_progression (start stop step : Int) :
    (progression start stop step).IsChain fun a b => b - a = step := by
  unfold progression terms
  rw [List.isChain_map, List.isChain_range]
  intro k _
  simp only [Nat.cast_succ]
  ring

/-! ## Slices -/

/-- **Slices select arithmetic progressions.**  With a step other than zero, and fewer than 2^63 places,
the places of a slice are the numbers from its begin to before its end in equal steps.  All are places of
the list, neighbours differ by exactly the step, and the walk in machine words, with sums that saturate
or end it, finds the same. -/
theorem indices_eq_progression (s : Slice) (length : Nat) (hstep : s.step ≠ 0)
    (hlength : length < 2 ^ 63) :
    ∃ places, s.indices? length = some places ∧ Machine.places s length = pure places ∧
      places.map Int.ofNat = progression (s.begins length) (s.ends length) s.step.toInt ∧
      (∀ n ∈ places, n < length) ∧
      places.IsChain fun m n : Nat => (n : Int) - m = s.step.toInt := by
  have hne : s.step.toInt ≠ 0 := fun h => hstep (Int64.toInt_inj.1 h)
  have hfirst := Machine.first_range s length
  have hlast := Machine.last_range s length
  obtain ⟨places, hplaces, hmap⟩ : ∃ places, s.indices? length = some places ∧
      places.map Int.ofNat = progression (s.begins length) (s.ends length) s.step.toInt := by
    rw [← first_eq_begins, ← last_eq_ends]
    unfold indices?
    dsimp only
    rw [if_neg hne]
    by_cases hup : 0 < s.step.toInt
    · rw [if_pos hup]
      exact ⟨_, rfl, upward_eq hup (hfirst.1 hup)⟩
    · rw [if_neg hup]
      exact ⟨_, rfl, downward_eq (by omega) (hlast.2 (by omega))⟩
  refine ⟨places, hplaces, ?_, hmap, Machine.lt_of_mem_indices hplaces, ?_⟩
  · rw [Machine.places_eq hlength, hplaces]
  · have hchain := isChain_progression (s.begins length) (s.ends length) s.step.toInt
    rwa [← hmap, List.isChain_map] at hchain

/-- From the back in steps of three, from a start beyond the list. -/
theorem indices_of_backward :
    let s : Slice := ⟨some 100, none, -3⟩
    s.step ≠ 0 ∧ 8 < 2 ^ 63 ∧ s.indices? 8 = some [7, 4, 1] ∧
      [7, 4, 1].map Int.ofNat = progression (s.begins 8) (s.ends 8) s.step.toInt := by
  intro s
  have hplaces : s.indices? 8 = some [7, 4, 1] := by cbv
  obtain ⟨places, hsome, -, hmap, -⟩ := indices_eq_progression s 8 (by decide) (by decide)
  rw [hplaces] at hsome
  cases hsome
  exact ⟨by decide, by decide, hplaces, hmap⟩

end JsonQuery.Slice
