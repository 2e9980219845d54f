import JsonQuery.Proofs.Expr.Node
import JsonQuery.Proofs.Grammar.Induction
import JsonQuery.Proofs.Grammar.Text

/-!
# What the reader has checked

* `Expr.Checked` — a slice has a step other than zero, a call names a known function and has a right
  number of arguments.
* `Expr.checked_of_parse` — this holds of every node of an expression that was read, also inside
  predicates, lists, named expressions, arguments and references.
-/

namespace JsonQuery

/-- What the reader checks of a node, given the numbers of arguments that functions take. -/
def Expr.Checked (arity? : String → Option Arity) : Expr → Prop
  | .project (.slice s) _ _ => s.step ≠ 0
  | .call name args => ∃ arity, arity? name = some arity ∧ arity.accepts args.length = true
  | _ => True

namespace Grammar

variable {arity? : String → Option Arity} {S : Reading} {power : Nat} {ts rest : List Token}
  {e left lhs : Expr}

/-- A step that is written is not zero, and a missing one is one. -/
theorem step_ne_zero {step : Option (Option Int64)} (h : step ≠ some (some 0)) :
    step.join.getD 1 ≠ 0 := by
  rcases step with _ | _ | n
  · decide
  · decide
  · simpa using h

theorem Sequence.forall_mem {α : Type} {Q : α → Prop} {item : List Token → α → List Token → Prop}
    {close : Closing} (hitem : ∀ {ts a rest}, item ts a rest → Q a) {as : List α}
    (h : Sequence item close ts as rest) : ∀ a ∈ as, Q a := by
  induction h with
  | last h _ =>
    intro a ha
    rw [List.mem_singleton.1 ha]
    exact hitem h
  | more h _ _ ih =>
    intro a ha
    rcases List.mem_cons.1 ha with rfl | ha
    · exact hitem h
    · exact ih a ha

section Parts

variable (hS : ∀ {power ts e rest}, S power ts e rest → e.All (Expr.Checked arity?))
include hS

theorem checked_multiList {es : List Expr} (h : Sequence (S 0) .bracket ts es rest) :
    (Expr.multiList es).All (Expr.Checked arity?) :=
  Expr.all_iff.2 ⟨trivial, h.forall_mem (Q := Expr.All (Expr.Checked arity?)) fun h => hS h⟩

theorem checked_multiHash {ps : List (String × Expr)} (h : Sequence (Named S) .brace ts ps rest) :
    (Expr.multiHash ps).All (Expr.Checked arity?) := by
  have hnamed : ∀ {ts p rest}, Named S ts p rest → p.2.All (Expr.Checked arity?) := by
    intro ts p rest h
    cases h with
    | identifier h => exact hS h
    | quoted h => exact hS h
  refine Expr.all_iff.2 ⟨trivial, fun c hc => ?_⟩
  obtain ⟨p, hp, rfl⟩ := List.mem_map.1 hc
  exact h.forall_mem (Q := fun p => p.2.All (Expr.Checked arity?)) hnamed p hp

theorem AfterDot.checked (h : AfterDot S power ts e rest) : e.All (Expr.Checked arity?) := by
  cases h with
  | list h => exact checked_multiList (S := S) hS h
  | hash h => exact checked_multiHash (S := S) hS h
  | step _ h => exact hS h

theorem Projected.checked (h : Projected S power ts e rest) : e.All (Expr.Checked arity?) := by
  cases h with
  | none => exact Expr.all_leaf trivial rfl
  | dot h => exact h.checked hS
  | bracket h => exact hS h
  | filter h => exact hS h

theorem Projected.checked_project {kind : Projection} {rhs : Expr}
    (h : Projected S power ts rhs rest) (hlhs : lhs.All (Expr.Checked arity?))
    (hkind : ∀ s, kind = .slice s → s.step ≠ 0) :
    (Expr.project kind lhs rhs).All (Expr.Checked arity?) := by
  refine Expr.all_iff.2 ⟨?_, by simpa [Expr.children] using ⟨hlhs, h.checked hS⟩⟩
  cases kind with
  | slice s => exact hkind s rfl
  | _ => trivial

theorem Bracketed.checked (h : Bracketed S lhs ts e rest) (hlhs : lhs.All (Expr.Checked arity?)) :
    e.All (Expr.Checked arity?) := by
  cases h with
  | index =>
    have hindex : ∀ n, (Expr.index n).All (Expr.Checked arity?) :=
      fun _ => Expr.all_leaf trivial rfl
    unfold indexed
    split
    · exact hindex _
    · exact Expr.all_iff.2 ⟨trivial, by simpa [Expr.children] using ⟨hlhs, hindex _⟩⟩
  | list h => exact h.checked_project hS hlhs (by simp)
  | slice hzero h =>
    refine h.checked_project hS hlhs fun s hs => ?_
    cases hs
    exact step_ne_zero hzero

theorem Filtered.checked (h : Filtered S lhs ts e rest) (hlhs : lhs.All (Expr.Checked arity?)) :
    e.All (Expr.Checked arity?) := by
  obtain ⟨hpredicate, hrhs⟩ := h
  exact Expr.all_iff.2
    ⟨trivial, by simpa [Expr.children] using ⟨hS hpredicate, hlhs, hrhs.checked hS⟩⟩

theorem Primary.checked (h : Primary arity? S ts e rest) : e.All (Expr.Checked arity?) := by
  have hcurrent : Expr.current.All (Expr.Checked arity?) := Expr.all_leaf trivial rfl
  cases h with
  | current | identifier | quoted | raw | literal => exact Expr.all_leaf trivial rfl
  | call harity haccepts hargs =>
    refine Expr.all_iff.2 ⟨⟨_, harity, haccepts⟩, ?_⟩
    cases hargs with
    | none => simp [Expr.children]
    | some _ h => exact h.forall_mem (Q := Expr.All (Expr.Checked arity?)) fun h => hS h
  | values h => exact h.checked_project hS hcurrent (by simp)
  | bracketed h => exact h.checked hS hcurrent
  | multiList _ h => exact checked_multiList (S := S) hS h
  | flatten h => exact h.checked_project hS hcurrent (by simp)
  | filter h => exact h.checked hS hcurrent
  | multiHash h => exact checked_multiHash (S := S) hS h
  | reference h => exact Expr.all_iff.2 ⟨trivial, by simpa [Expr.children] using hS h⟩
  | not h => exact Expr.all_iff.2 ⟨trivial, by simpa [Expr.children] using hS h⟩
  | group h => exact hS h

theorem Extension.checked (h : Extension S left ts e rest) (hleft : left.All (Expr.Checked arity?)) :
    e.All (Expr.Checked arity?) := by
  cases h with
  | values h => exact h.checked_project hS hleft (by simp)
  | subexpr _ h =>
    exact Expr.all_iff.2 ⟨trivial, by simpa [Expr.children] using ⟨hleft, h.checked hS⟩⟩
  | bracketed h => exact h.checked hS hleft
  | flatten h => exact h.checked_project hS hleft (by simp)
  | filter h => exact h.checked hS hleft
  | pipe h => exact Expr.all_iff.2 ⟨trivial, by simpa [Expr.children] using ⟨hleft, hS h⟩⟩
  | resembles => exact Expr.all_iff.2 ⟨trivial, by simpa [Expr.children] using hleft⟩
  | binary _ h => exact Expr.all_iff.2 ⟨trivial, by simpa [Expr.children] using ⟨hleft, hS h⟩⟩

end Parts

/-- Every node of an expression that is read has been checked. -/
theorem checked_of_expression {limit : Nat} {depth : Nat}
    (h : expression arity? limit depth power ts = .ok (e, rest)) : e.All (Expr.Checked arity?) :=
  expression_induction (P := fun _ _ _ e _ => e.All (Expr.Checked arity?))
    (C := fun _ _ _ _ left _ => left.All (Expr.Checked arity?))
    (fun _ _ _ _ _ h => h.checked And.right)
    (fun _ _ _ _ _ _ _ _ hleft _ h => h.checked And.right hleft)
    (fun _ _ _ _ _ _ h _ => h) _ _ _ _ _ h

end Grammar

theorem Expr.checked_of_parse {arity? : String → Option Arity} {limit : Nat} {text : String}
    {e : Expr} (h : Expr.parse arity? limit text = .ok e) : e.All (Expr.Checked arity?) := by
  obtain ⟨_, _, hread⟩ := Expr.parse_ok.1 h
  exact Grammar.checked_of_expression hread

end JsonQuery
