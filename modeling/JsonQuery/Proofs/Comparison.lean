import JsonQuery.Expr
import JsonQuery.Proofs.Number.Order
import JsonQuery.Proofs.Text.Units

/-!
# Comparing numbers and texts

* `TotalPreorder` — a comparison that is reflexive, reversible and transitive.
* `BinaryOp.Agree` — the comparison operators agree with each other on two values.
* `BinaryOp.comparisons_agree` — numbers are totally preordered, texts are totally ordered, and the
  operators agree on any two of either.
-/

namespace JsonQuery

/-- A comparison that is reflexive, is reversed when its sides are exchanged, and is transitive in what is
not greater. -/
structure TotalPreorder {α : Type} (order : α → α → Ordering) : Prop where
  refl : ∀ a, order a a = .eq
  swap : ∀ a b, order b a = (order a b).swap
  trans : ∀ a b c, order a b ≠ .gt → order b c ≠ .gt → order a c ≠ .gt

namespace TotalPreorder

variable {α β : Type} {order : α → α → Ordering}

theorem of_transCmp [Std.TransCmp order] : TotalPreorder order where
  refl _ := Std.ReflCmp.compare_self
  swap _ _ := Std.OrientedCmp.eq_swap
  trans a b c hab hbc := by
    have hle := Ordering.isLE_iff_ne_gt.2 hab
    have hle' := Ordering.isLE_iff_ne_gt.2 hbc
    exact Ordering.isLE_iff_ne_gt.1 (Std.TransCmp.isLE_trans hle hle')

theorem of_linearOrder [LinearOrder α] : TotalPreorder (cmp : α → α → Ordering) where
  refl := cmp_self_eq_eq
  swap a b := (cmp_swap a b).symm
  trans a b c hab hbc := by
    rw [Ne, cmp_eq_gt_iff, not_lt] at *
    exact le_trans hab hbc

/-- Values are preordered by their images. -/
theorem on (h : TotalPreorder order) (f : β → α) : TotalPreorder fun a b => order (f a) (f b) where
  refl a := h.refl (f a)
  swap a b := h.swap (f a) (f b)
  trans a b c := h.trans (f a) (f b) (f c)

theorem transCmp (h : TotalPreorder order) : Std.TransCmp order where
  eq_swap {a b} := h.swap b a
  isLE_trans {a b c} hab hbc := by
    rw [Ordering.isLE_iff_ne_gt] at *
    exact h.trans a b c hab hbc

/-- What stands strictly on one side of `b` stands so to all that is equal to `b` or beyond it. -/
theorem trans_strict (h : TotalPreorder order) {side : Ordering} (hside : side ≠ .eq) {a b c : α}
    (hab : order a b = side) (hbc : order b c = side ∨ order b c = .eq) : order a c = side := by
  have := h.transCmp
  cases side with
  | eq => exact absurd rfl hside
  | lt =>
    refine Std.TransCmp.lt_of_lt_of_isLE hab ?_
    rcases hbc with hbc | hbc <;> rw [hbc] <;> rfl
  | gt =>
    refine Std.TransCmp.gt_of_gt_of_isGE hab ?_
    rcases hbc with hbc | hbc <;> rw [hbc] <;> rfl

end TotalPreorder

theorem Text.compareUnits_preorder : TotalPreorder compareUnits := by
  have hlists : TotalPreorder compareLists := by
    rw [show compareLists = List.compareLex compare from funext₂ compareLists_eq]
    exact .of_transCmp
  exact hlists.on units

namespace BinaryOp

/-- An operator yields true. -/
def Holds (op : BinaryOp) (a b : Json) : Prop := op.apply a b = .bool true

/-- The comparison operators agree with each other on two values. -/
structure Agree (a b : Json) : Prop where
  one : (lt.Holds a b ∧ ¬ eq.Holds a b ∧ ¬ gt.Holds a b) ∨ (¬ lt.Holds a b ∧ eq.Holds a b ∧ ¬ gt.Holds a b) ∨
    (¬ lt.Holds a b ∧ ¬ eq.Holds a b ∧ gt.Holds a b)
  le_iff : le.Holds a b ↔ lt.Holds a b ∨ eq.Holds a b
  ge_iff : ge.Holds a b ↔ gt.Holds a b ∨ eq.Holds a b
  ne : ∃ x, eq.apply a b = .bool x ∧ BinaryOp.ne.apply a b = .bool (!x)

/-- They do so where equality is equality in the order. -/
theorem agree_of_compare {a b : Json} {o : Ordering} (hcompare : a.compare b = some o)
    (hequal : a.equal b = (o == .eq)) : Agree a b := by
  have hlt : lt.Holds a b ↔ o = .lt := by simp [Holds, apply, test, hcompare]
  have hgt : gt.Holds a b ↔ o = .gt := by simp [Holds, apply, test, hcompare]
  have hle : le.Holds a b ↔ o ≠ .gt := by simp [Holds, apply, test, hcompare]
  have hge : ge.Holds a b ↔ o ≠ .lt := by simp [Holds, apply, test, hcompare]
  have heq : eq.Holds a b ↔ o = .eq := by simp [Holds, apply, hequal]
  refine ⟨?_, ?_, ?_, _, rfl, rfl⟩
  · rw [hlt, heq, hgt]
    cases o <;> decide
  · rw [hle, hlt, heq]
    cases o <;> decide
  · rw [hge, hgt, heq]
    cases o <;> decide

theorem agree_number (m n : Number) : Agree (.number m) (.number n) := by
  have hcompare : Number.compare m n = some (cmp m.key n.key) := Number.compare_eq m n
  refine agree_of_compare hcompare ?_
  show (Number.compare m n == some .eq) = _
  rw [hcompare]
  rfl

theorem agree_string (s t : String) : Agree (.string s) (.string t) := by
  refine agree_of_compare rfl ?_
  show (s == t) = _
  rw [Bool.eq_iff_iff, beq_iff_eq, beq_iff_eq]
  constructor
  · rintro rfl
    exact Text.compareUnits_preorder.refl s
  · exact Text.eq_of_compareUnits

/-- **Numbers and texts are ordered, and the operators agree.**  Any two numbers have an order, which is a
total preorder; the order of texts is a total order; and on two numbers or two texts exactly one of `<`,
`==` and `>` holds, and the other operators follow from these. -/
theorem comparisons_agree :
    (∃ order : Number → Number → Ordering, (∀ m n, Number.compare m n = some (order m n)) ∧
      TotalPreorder order) ∧
    (TotalPreorder Text.compareUnits ∧ ∀ s t, Text.compareUnits s t = .eq → s = t) ∧
    (∀ m n, Agree (.number m) (.number n)) ∧ ∀ s t, Agree (.string s) (.string t) := by
  refine ⟨⟨fun m n => cmp m.key n.key, Number.compare_eq, ?_⟩, ⟨Text.compareUnits_preorder, ?_⟩,
    agree_number, agree_string⟩
  · exact TotalPreorder.of_linearOrder.on Number.key
  · intro s t
    exact Text.eq_of_compareUnits

end BinaryOp

end JsonQuery
