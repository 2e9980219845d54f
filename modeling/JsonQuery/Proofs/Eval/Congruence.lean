import JsonQuery.Eval
import JsonQuery.Library.Arrays
import JsonQuery.Proofs.Eval.Result
import Mathlib.Data.List.Forall2

/-!
# Comparing two evaluations

* `Congruence` — a relation between the results of two evaluations that every step keeps.
* `Congruence.equality`, `Congruence.unlessFails` — equal results; equal results unless the first evaluation
  ends in a given hard failure.
* `Argument.Related`, `Body.Related`, `Function.Related` — what is handed to functions, and what they do
  with it, compared in this way.
* `Congruence.collect`, `keep`, `mapItems` — the loops of an evaluation keep the relation.
-/

namespace JsonQuery

/-- A relation between the results of two evaluations that every step keeps: it holds of equal
results, of related evaluations with related steps behind them, and of what remains of a failure in a
call. -/
structure Congruence where
  holds : ∀ {α : Type}, Except Failure α → Except Failure α → Prop
  refl : ∀ {α : Type} (x : Except Failure α), holds x x
  bind : ∀ {α β : Type} {x y : Except Failure α} {k l : α → Except Failure β},
    holds x y → (∀ a, holds (k a) (l a)) → holds (x >>= k) (y >>= l)
  absorb : ∀ {x y : Traced Json} {v : Json} {note note' : Failure → Note},
    holds x.result y.result → holds (x.absorb v note).result (y.absorb v note').result

/-- What remains of a failure depends on the result only. -/
theorem Traced.absorb_congr {x y : Traced Json} {v : Json} {note note' : Failure → Note}
    (h : x.result = y.result) : (x.absorb v note).result = (y.absorb v note').result := by
  unfold Traced.absorb
  rw [h]
  split
  · rfl
  · split
    · exact h
    · rfl

/-- A hard failure outlasts a call. -/
theorem Traced.absorb_hard {x : Traced Json} {v : Json} {note : Failure → Note} {f : Failure}
    (hf : f.isHard = true) (h : x.result = .error f) : (x.absorb v note).result = .error f := by
  unfold Traced.absorb
  simp only [h, hf, if_true]

namespace Congruence

variable (Q : Congruence)

/-- The same result. -/
def equality : Congruence where
  holds x y := x = y
  refl _ := rfl
  bind hx hk := by
    cases hx
    exact bind_congr hk
  absorb := Traced.absorb_congr

/-- The same result, unless the first evaluation ends in the hard failure `h`. -/
def unlessFails (h : Failure) (hhard : h.isHard = true) : Congruence where
  holds x y := x = .error h ∨ x = y
  refl _ := .inr rfl
  bind {_ _ x _ _ _} hx hk := by
    rcases hx with rfl | rfl
    · exact .inl rfl
    · cases x with
      | error f => exact .inr rfl
      | ok a => exact hk a
  absorb hx := hx.imp (Traced.absorb_hard hhard) Traced.absorb_congr

theorem traced_bind {α β : Type} {x y : Traced α} {k l : α → Traced β}
    (hx : Q.holds x.result y.result) (hk : ∀ a, Q.holds (k a).result (l a).result) :
    Q.holds (x >>= k).result (y >>= l).result := by
  rw [Traced.result_bind, Traced.result_bind]
  exact Q.bind hx hk

/-! ## Loops -/

section Loops

variable {run run' : Json → Traced Json} (hrun : ∀ v, Q.holds (run v).result (run' v).result)
include hrun

theorem collect (items : List Json) :
    Q.holds (Eval.collect run items).result (Eval.collect run' items).result := by
  induction items with
  | nil => exact Q.refl _
  | cons v rest ih =>
    unfold Eval.collect
    split
    · exact ih
    · exact Q.traced_bind (hrun v) fun w => Q.traced_bind ih fun ws => Q.refl _

theorem keep (items : List Json) :
    Q.holds (Eval.keep run items).result (Eval.keep run' items).result := by
  induction items with
  | nil => exact Q.refl _
  | cons v rest ih =>
    unfold Eval.keep
    split
    · exact ih
    · exact Q.traced_bind (hrun v) fun b => Q.traced_bind ih fun vs => Q.refl _

theorem mapItems (items : List Json) :
    Q.holds (Library.mapItems run items).result (Library.mapItems run' items).result := by
  induction items with
  | nil => exact Q.refl _
  | cons v rest ih =>
    exact Q.traced_bind (hrun v) fun w => Q.traced_bind ih fun ws => Q.refl _

end Loops

end Congruence

/-! ## Functions and their arguments -/

/-- Two arguments are the same value, or references with related results. -/
inductive Argument.Related (Q : Congruence) : Argument → Argument → Prop
  | value (v : Json) : Related Q (.value v) (.value v)
  | reference {body body' : Expr} {run run' : Json → Traced Json} :
      (∀ v, Q.holds (run v).result (run' v).result) →
      Related Q (.reference body run) (.reference body' run')

/-- Related arguments have related results. -/
def Body.Related (Q : Congruence) (b b' : Body) : Prop :=
  ∀ args args', List.Forall₂ (Argument.Related Q) args args' → Q.holds (b args).result (b' args').result

/-- Two functions take as many arguments and do the same with them, up to `Q`. -/
def Function.Related (Q : Congruence) (f f' : Function) : Prop :=
  f.arity = f'.arity ∧ Body.Related Q f.body f'.body

end JsonQuery
