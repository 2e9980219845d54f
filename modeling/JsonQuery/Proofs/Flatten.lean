import JsonQuery.Proofs.Projections
import Mathlib.Logic.Function.Iterate

/-!
# Flattening

* `Json.leaves`, `Json.depth` — the leaves of nested arrays, from left to right, and how deep the arrays nest.
* `Json.spliced` — the items of an array with those of the arrays among them spliced in and the nulls left out;
  `Expr.eval_flatten`: a flattening projection gives these.
* `Json.leavesOf_spliced`, `Json.depthOf_spliced` — what one flattening keeps and what it lowers.
* `Expr.flatten_run` — what any number of flattenings does.
-/

namespace JsonQuery

namespace Json

/-! ## Leaves and depth -/

mutual

/-- The values at the ends of nested arrays, from left to right, without the nulls; an object is one of
them. -/
def leaves : Json → List Json
  | .array items => leavesOf items
  | .null => []
  | v => [v]

/-- The leaves of each of these values, one after another. -/
def leavesOf : List Json → List Json
  | [] => []
  | v :: rest => leaves v ++ leavesOf rest

end

mutual

/-- How deep arrays nest; all other values, objects included, have no depth. -/
def depth : Json → Nat
  | .array items => 1 + depthOf items
  | _ => 0

/-- The greatest depth of these values. -/
def depthOf : List Json → Nat
  | [] => 0
  | v :: rest => max (depth v) (depthOf rest)

end

/-- What a value is replaced by when it is spliced into an array: the items of an array, any other value
itself. -/
def spread : Json → List Json
  | .array items => items
  | v => [v]

/-- The items of an array with those of the arrays among them spliced in, without the nulls. -/
def spliced (items : List Json) : List Json := (items.flatMap spread).filter fun v => !v.isNull

variable {items : List Json}

theorem leavesOf_append (as bs : List Json) : leavesOf (as ++ bs) = leavesOf as ++ leavesOf bs := by
  induction as with
  | nil => rfl
  | cons v rest ih => rw [List.cons_append, leavesOf, leavesOf, ih, List.append_assoc]

theorem depthOf_append (as bs : List Json) : depthOf (as ++ bs) = max (depthOf as) (depthOf bs) := by
  induction as with
  | nil => exact (Nat.zero_max _).symm
  | cons v rest ih => rw [List.cons_append, depthOf, depthOf, ih, Nat.max_assoc]

theorem eq_null_of_isNull {v : Json} (h : v.isNull = true) : v = .null := by
  cases v <;> first | rfl | cases h

/-- A null is no leaf. -/
theorem leavesOf_filter (items : List Json) : leavesOf (items.filter fun v => !v.isNull) = leavesOf items := by
  induction items with
  | nil => rfl
  | cons v rest ih =>
    by_cases hv : v.isNull = true
    · rw [List.filter_cons_of_neg (by simp [hv]), ih, leavesOf, eq_null_of_isNull hv]
      rfl
    · rw [List.filter_cons_of_pos (by simp [hv]), leavesOf, leavesOf, ih]

/-- A null has no depth. -/
theorem depthOf_filter (items : List Json) : depthOf (items.filter fun v => !v.isNull) = depthOf items := by
  induction items with
  | nil => rfl
  | cons v rest ih =>
    by_cases hv : v.isNull = true
    · rw [List.filter_cons_of_neg (by simp [hv]), ih, depthOf, eq_null_of_isNull hv]
      exact (Nat.zero_max _).symm
    · rw [List.filter_cons_of_pos (by simp [hv]), depthOf, depthOf, ih]

theorem leavesOf_spread (v : Json) : leavesOf v.spread = v.leaves := by
  cases v <;> rfl

theorem depthOf_spread (v : Json) : depthOf v.spread = v.depth - 1 := by
  cases v with
  | array items => rw [spread, depth, Nat.add_sub_cancel_left]
  | _ => rfl

/-! ## One flattening -/

/-- **Flattening loses and reorders no leaves.** -/
theorem leavesOf_spliced (items : List Json) : leavesOf (spliced items) = leavesOf items := by
  rw [spliced, leavesOf_filter]
  induction items with
  | nil => rfl
  | cons v rest ih => rw [List.flatMap_cons, leavesOf_append, leavesOf_spread, ih, leavesOf]

/-- **Flattening takes one level of arrays away**, if there is one. -/
theorem depthOf_spliced (items : List Json) : depthOf (spliced items) = depthOf items - 1 := by
  rw [spliced, depthOf_filter]
  induction items with
  | nil => rfl
  | cons v rest ih =>
    rw [List.flatMap_cons, depthOf_append, depthOf_spread, ih, depthOf]
    omega

theorem filter_spread {v : Json} (h : v.depth = 0) : v.spread.filter (fun w => !w.isNull) = v.leaves := by
  cases v with
  | array items =>
    rw [depth] at h
    omega
  | _ => rfl

/-- Where no arrays are left, only the nulls go. -/
theorem spliced_of_flat (h : depthOf items = 0) : spliced items = leavesOf items := by
  induction items with
  | nil => rfl
  | cons v rest ih =>
    rw [depthOf] at h
    rw [spliced, List.flatMap_cons, List.filter_append, filter_spread (by omega), leavesOf, ← ih (by omega)]
    rfl

/-! ## Any number of flattenings -/

theorem leavesOf_iterate (k : Nat) (items : List Json) : leavesOf (spliced^[k] items) = leavesOf items := by
  induction k generalizing items with
  | zero => rfl
  | succ k ih => rw [Function.iterate_succ_apply, ih, leavesOf_spliced]

theorem depthOf_iterate (k : Nat) (items : List Json) : depthOf (spliced^[k] items) = depthOf items - k := by
  induction k generalizing items with
  | zero => rfl
  | succ k ih =>
    rw [Function.iterate_succ_apply, ih, depthOf_spliced]
    omega

/-- After as many flattenings as there are levels, the leaves are left. -/
theorem iterate_of_depth_le {k : Nat} (h : depth (.array items) ≤ k) : spliced^[k] items = leavesOf items := by
  rw [depth] at h
  obtain ⟨j, rfl⟩ : ∃ j, k = j + 1 := ⟨k - 1, by omega⟩
  have hflat : depthOf (spliced^[j] items) = 0 := by
    rw [depthOf_iterate]
    omega
  rw [Function.iterate_succ_apply', spliced_of_flat hflat, leavesOf_iterate]

end Json

namespace Expr

open Json (leaves depth spliced)

/-- The current value, flattened `k` times. -/
def flattened : Nat → Expr
  | 0 => .current
  | k + 1 => .project .flatten (flattened k) .current

variable {r : Registry} {v : Json} {e : Expr} {items : List Json}

/-- A flattening projection of an array. -/
theorem eval_flatten (h : (e.eval r v).result = .ok (.array items)) :
    ((Expr.project .flatten e .current).eval r v).result = .ok (.array (spliced items)) := by
  rw [Expr.eval]
  refine Traced.result_bind_ok.2 ⟨_, h, Traced.result_bind_ok.2 ⟨some (items.flatMap Json.spread), ?_, ?_⟩⟩
  · rw [Traced.result_ofExcept]
    rfl
  · exact Traced.result_bind_ok.2 ⟨_, Eval.result_collect_current r _, rfl⟩

theorem eval_flattened (r : Registry) (k : Nat) (items : List Json) :
    ((flattened k).eval r (.array items)).result = .ok (.array (spliced^[k] items)) := by
  induction k with
  | zero => rfl
  | succ k ih =>
    rw [Function.iterate_succ_apply']
    exact eval_flatten ih

/-- **Flattening an array again and again.**  Every step gives an array; its leaves are those of the array at
the start, in the same order; from an array that nests deeper than one level, a step takes exactly one level
away; and once there have been as many steps as the array at the start has levels, the result is the row of its
leaves and stays that. -/
theorem flatten_run (r : Registry) (items : List Json) : ∃ run : Nat → List Json, run 0 = items ∧ ∀ k,
    ((flattened k).eval r (.array items)).result = .ok (.array (run k)) ∧
    ((Expr.project .flatten .current .current).eval r (.array (run k))).result = .ok (.array (run (k + 1))) ∧
    leaves (.array (run k)) = leaves (.array items) ∧
    (1 < depth (.array (run k)) → depth (.array (run (k + 1))) + 1 = depth (.array (run k))) ∧
    (depth (.array items) ≤ k → run k = leaves (.array items)) := by
  refine ⟨fun k => spliced^[k] items, rfl, fun k => ⟨eval_flattened r k items, ?_, ?_, ?_, ?_⟩⟩
  · show _ = Except.ok (Json.array (spliced^[k + 1] items))
    rw [Function.iterate_succ_apply']
    exact eval_flatten rfl
  · exact Json.leavesOf_iterate k items
  · intro h
    simp only [depth, Json.depthOf_iterate] at h ⊢
    omega
  · exact Json.iterate_of_depth_le

/-- Nulls and empty arrays at several levels, and an array inside an object. -/
example :
    let object : Json := .object [("a", .array [])]
    let items : List Json := [.bool true, .array [.null, .array [.bool false, .array []], object], .null]
    depth (.array items) = 4 ∧
      ((flattened 2).eval .empty (.array items)).result =
        .ok (.array [.bool true, .bool false, .array [], object]) := ⟨rfl, rfl⟩

end Expr

end JsonQuery
