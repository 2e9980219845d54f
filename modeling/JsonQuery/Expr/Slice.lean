/-!
# Slices

* `Slice` — two optional ends and a step.
* `Slice.indices?` — the places that a slice selects from a sequence of a given length, in order of
  selection; none when the step is zero.  Ends below zero count from the back, ends out of range
  are brought to the nearest place, and a missing end is the far one in the step's direction.
* `Slice.select?` — the selected items of a list.
-/

namespace JsonQuery

/-- Two optional ends and a step. -/
structure Slice where
  start : Option Int64
  stop : Option Int64
  step : Int64
deriving DecidableEq

namespace Slice

/-- An end of a slice brought into the range of `len` places (`adjust_endpoint`). -/
def clamp (len step e : Int) : Int :=
  if e < 0 then
    if 0 ≤ e + len then e + len else if step < 0 then -1 else 0
  else if len ≤ e then
    if step < 0 then len - 1 else len
  else e

/-- Where the selection starts. -/
def first (s : Slice) (len : Int) : Int :=
  match s.start with
  | some e => clamp len s.step.toInt e.toInt
  | none => if s.step.toInt < 0 then len - 1 else 0

/-- Where the selection ends; this place itself is left out. -/
def last (s : Slice) (len : Int) : Int :=
  match s.stop with
  | some e => clamp len s.step.toInt e.toInt
  | none => if s.step.toInt < 0 then -1 else len

/-- The places from `i` up to before `stop`, by a step above zero. -/
def upward (step stop i : Int) : List Nat :=
  if i < stop ∧ 0 < step then i.toNat :: upward step stop (i + step) else []
termination_by (stop - i).toNat
decreasing_by omega

/-- The places from `i` down to before `stop`, by a step below zero. -/
def downward (step stop i : Int) : List Nat :=
  if stop < i ∧ step < 0 then i.toNat :: downward step stop (i + step) else []
termination_by (i - stop).toNat
decreasing_by omega

/-- The places that a slice selects from `len` places; none when the step is zero (`indices`). -/
def indices? (s : Slice) (len : Nat) : Option (List Nat) :=
  let step := s.step.toInt
  if step = 0 then none
  else if 0 < step then some (upward step (s.last len) (s.first len))
  else some (downward step (s.last len) (s.first len))

/-- The selected items of a list; none when the step is zero. -/
def select? {α : Type} (s : Slice) (items : List α) : Option (List α) :=
  let table := items.toArray
  (s.indices? items.length).map fun places => places.filterMap (table[·]?)

end Slice

end JsonQuery
