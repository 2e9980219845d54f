import JsonQuery.Proofs.Machine.Trapping

/-!
# Places of slices in machine words

* `Machine.item?` — an index, counted from the back if it is below zero.
* `Machine.clamp`, `Machine.walk`, `Machine.places` — the ends and the places of a slice.
* `Machine.item_eq`, `Machine.slice_eq` — in a list of fewer than 2^63 items no step overflows or leaves
  the list, and the items are those of `Eval.item?` and of `Slice.select?`.
-/

namespace JsonQuery.Machine

open Trapping

variable {α : Type}

/-! ## Definitions -/

/-- The item at a place, counted from the back if the place is below zero. -/
def item? (items : List α) (index : Int64) : Trapping (Option α) := do
  let i ← if index.toInt < 0 then do
      let length ← word items.length
      word (length + index.toInt)
    else pure index.toInt
  pure (if i < 0 then none else items[i.toNat]?)

/-- An end of a slice brought into the range of `length` places. -/
def clamp (length step e : Int) : Trapping Int :=
  if e < 0 then do
    let adjusted ← word (e + length)
    pure (if 0 ≤ adjusted then adjusted else if step < 0 then -1 else 0)
  else if length ≤ e then
    if step < 0 then word (length - 1) else pure length
  else pure e

/-- The places from `i` on up to before `stop`; a place that is no word any more ends the walk. -/
def walk (step stop i : Int) : Trapping (List Nat) :=
  if (0 < step ∧ i < stop) ∨ (step < 0 ∧ stop < i) then do
    let here ← place i
    match word? (i + step) with
    | some _ => do
      let rest ← walk step stop (i + step)
      pure (here :: rest)
    | none => pure [here]
  else pure []
termination_by if 0 < step then (stop - i).toNat else (i - stop).toNat
decreasing_by split <;> omega

/-- Where the selection starts. -/
def first (s : Slice) (length : Int) : Trapping Int :=
  match s.start with
  | some e => clamp length s.step.toInt e.toInt
  | none => if s.step.toInt < 0 then word (length - 1) else pure 0

/-- Where the selection ends; this place itself is left out. -/
def last (s : Slice) (length : Int) : Trapping Int :=
  match s.stop with
  | some e => clamp length s.step.toInt e.toInt
  | none => pure (if s.step.toInt < 0 then -1 else length)

/-- The places that a slice selects from `length` places. -/
def places (s : Slice) (length : Nat) : Trapping (List Nat) :=
  if s.step.toInt = 0 then .ran (.fail .zeroStep)
  else do
    let length ← word length
    let start ← first s length
    let stop ← last s length
    walk s.step.toInt stop start

/-- The selected items of a list. -/
def slice (s : Slice) (items : List α) : Trapping (List α) := do
  pick items (← places s items.length)

/-! ## Single steps -/

/-- A word of 64 bits is in the range of words. -/
theorem toInt_range (n : Int64) : -2 ^ 63 ≤ n.toInt ∧ n.toInt < 2 ^ 63 :=
  ⟨n.le_toInt, n.toInt_lt⟩

theorem item_eq {items : List Json} (h : items.length < 2 ^ 63) (index : Int64) :
    item? items index = pure (Eval.item? items index) := by
  have hrange := toInt_range index
  unfold item? Eval.item?
  by_cases hneg : index.toInt < 0
  · simp only [if_pos hneg]
    rw [word_eq (by omega) (by omega), pure_bind, word_eq (by omega) (by omega), pure_bind,
      Int.add_comm]
  · simp only [if_neg hneg, pure_bind]

variable {length : Nat} {step e : Int}

theorem clamp_eq (hlength : length < 2 ^ 63) (he : -2 ^ 63 ≤ e ∧ e < 2 ^ 63) :
    clamp length step e = pure (Slice.clamp length step e) := by
  unfold clamp Slice.clamp
  by_cases hneg : e < 0
  · rw [if_pos hneg, if_pos hneg, word_eq (by omega) (by omega), pure_bind]
  · rw [if_neg hneg, if_neg hneg]
    by_cases hbeyond : (length : Int) ≤ e
    · rw [if_pos hbeyond, if_pos hbeyond]
      by_cases hstep : step < 0
      · rw [if_pos hstep, if_pos hstep, word_eq (by omega) (by omega)]
      · rw [if_neg hstep, if_neg hstep]
    · rw [if_neg hbeyond, if_neg hbeyond]

/-- An end is a place of the list or lies directly before the first, or behind the last. -/
theorem clamp_range (length : Nat) (step e : Int) :
    (0 < step → 0 ≤ Slice.clamp length step e ∧ Slice.clamp length step e ≤ length) ∧
    (step < 0 → -1 ≤ Slice.clamp length step e ∧ Slice.clamp length step e < length) := by
  unfold Slice.clamp
  split
  · split <;> omega
  · split
    · split <;> omega
    · omega

/-! ## Walks -/

variable {stop i : Int}

theorem walk_upward (hstep : 0 < step) (hstop : stop < 2 ^ 63) (hi : 0 ≤ i) :
    walk step stop i = pure (Slice.upward step stop i) := by
  induction i using Slice.upward.induct step stop with
  | case1 i hgo ih =>
    have hcond : (0 < step ∧ i < stop) ∨ (step < 0 ∧ stop < i) := .inl ⟨hstep, hgo.1⟩
    rw [walk, Slice.upward, if_pos hcond, if_pos hgo, place_eq hi, pure_bind]
    by_cases hnext : i + step < 2 ^ 63
    · have hword : word? (i + step) = some (i + step) := if_pos ⟨by omega, hnext⟩
      simp only [hword]
      rw [ih (by omega), pure_bind]
    · -- the next place is no word, so it lies behind the stop
      have hword : word? (i + step) = none := if_neg (by omega)
      simp only [hword]
      rw [Slice.upward, if_neg (by omega)]
  | case2 i hend =>
    have hcond : ¬ ((0 < step ∧ i < stop) ∨ (step < 0 ∧ stop < i)) := by omega
    rw [walk, Slice.upward, if_neg hcond, if_neg hend]

theorem walk_downward (hstep : step < 0) (hword : -2 ^ 63 ≤ step) (hstop : -1 ≤ stop)
    (hi : i < 2 ^ 63) : walk step stop i = pure (Slice.downward step stop i) := by
  induction i using Slice.downward.induct step stop with
  | case1 i hgo ih =>
    have hcond : (0 < step ∧ i < stop) ∨ (step < 0 ∧ stop < i) := .inr ⟨hstep, hgo.1⟩
    have hword : word? (i + step) = some (i + step) := if_pos ⟨by omega, by omega⟩
    rw [walk, Slice.downward, if_pos hcond, if_pos hgo, place_eq (by omega), pure_bind]
    simp only [hword]
    rw [ih (by omega), pure_bind]
  | case2 i hend =>
    have hcond : ¬ ((0 < step ∧ i < stop) ∨ (step < 0 ∧ stop < i)) := by omega
    rw [walk, Slice.downward, if_neg hcond, if_neg hend]

theorem upward_lt (hstop : stop ≤ length) (hi : 0 ≤ i) :
    ∀ n ∈ Slice.upward step stop i, n < length := by
  induction i using Slice.upward.induct step stop with
  | case1 i hgo ih =>
    rw [Slice.upward, if_pos hgo]
    exact List.forall_mem_cons.2 ⟨by omega, ih (by omega)⟩
  | case2 i hend =>
    rw [Slice.upward, if_neg hend]
    exact nofun

theorem downward_lt (hstop : -1 ≤ stop) (hi : i < length) :
    ∀ n ∈ Slice.downward step stop i, n < length := by
  induction i using Slice.downward.induct step stop with
  | case1 i hgo ih =>
    rw [Slice.downward, if_pos hgo]
    exact List.forall_mem_cons.2 ⟨by omega, ih (by omega)⟩
  | case2 i hend =>
    rw [Slice.downward, if_neg hend]
    exact nofun

/-! ## Slices -/

variable {s : Slice}

theorem first_range (s : Slice) (length : Nat) :
    (0 < s.step.toInt → 0 ≤ s.first length) ∧ (s.step.toInt < 0 → s.first length < length) := by
  unfold Slice.first
  cases s.start with
  | some e =>
    have h := clamp_range length s.step.toInt e.toInt
    exact ⟨fun hstep => (h.1 hstep).1, fun hstep => (h.2 hstep).2⟩
  | none =>
    dsimp only
    split <;> omega

theorem last_range (s : Slice) (length : Nat) :
    (0 < s.step.toInt → s.last length ≤ length) ∧ (s.step.toInt < 0 → -1 ≤ s.last length) := by
  unfold Slice.last
  cases s.stop with
  | some e =>
    have h := clamp_range length s.step.toInt e.toInt
    exact ⟨fun hstep => (h.1 hstep).2, fun hstep => (h.2 hstep).1⟩
  | none =>
    dsimp only
    split <;> omega

/-- The places of a slice are places of the list. -/
theorem lt_of_mem_indices {ns : List Nat} (h : s.indices? length = some ns) : ∀ n ∈ ns, n < length := by
  have hfirst := first_range s length
  have hlast := last_range s length
  unfold Slice.indices? at h
  dsimp only at h
  split at h
  · cases h
  · split at h
    · cases h
      exact upward_lt (hlast.1 (by omega)) (hfirst.1 (by omega))
    · cases h
      exact downward_lt (hlast.2 (by omega)) (hfirst.2 (by omega))

theorem first_eq (h : length < 2 ^ 63) (s : Slice) : first s length = pure (s.first length) := by
  unfold first Slice.first
  cases s.start with
  | some e => exact clamp_eq h (toInt_range e)
  | none =>
    dsimp only
    split
    · exact word_eq (by omega) (by omega)
    · rfl

theorem last_eq (h : length < 2 ^ 63) (s : Slice) : last s length = pure (s.last length) := by
  unfold last Slice.last
  cases s.stop with
  | some e => exact clamp_eq h (toInt_range e)
  | none => rfl

/-- No step towards the places of a slice overflows. -/
theorem places_eq (h : length < 2 ^ 63) (s : Slice) :
    places s length = match s.indices? length with
      | some ns => pure ns
      | none => .ran (.fail .zeroStep) := by
  have hfirst := first_range s length
  have hlast := last_range s length
  have hrange := toInt_range s.step
  unfold places Slice.indices?
  dsimp only
  by_cases hzero : s.step.toInt = 0
  · rw [if_pos hzero, if_pos hzero]
  · rw [if_neg hzero, if_neg hzero, word_eq (by omega) (by omega), pure_bind, first_eq h, pure_bind,
      last_eq h, pure_bind]
    by_cases hstep : 0 < s.step.toInt
    · rw [if_pos hstep]
      exact walk_upward hstep (by omega) (hfirst.1 hstep)
    · rw [if_neg hstep]
      exact walk_downward (by omega) hrange.1 (hlast.2 (by omega)) (by omega)

theorem slice_eq {items : List α} (h : items.length < 2 ^ 63) (s : Slice) :
    slice s items = match s.select? items with
      | some selected => pure selected
      | none => .ran (.fail .zeroStep) := by
  unfold slice Slice.select?
  rw [places_eq h]
  cases hplaces : s.indices? items.length with
  | none => rfl
  | some ns =>
    rw [pure_bind, pick_eq (lt_of_mem_indices hplaces)]
    simp

/-- The second place of this walk would be no word. -/
example : slice ⟨some 1, none, 9223372036854775807⟩ [10, 20, 30] = pure [20] := by
  cbv

end JsonQuery.Machine
