import JsonQuery.Proofs.Projections
import Mathlib.Data.List.Forall2

/-!
# Calls whose arguments have values

* `Expr.Evaluates` — the values of a list of expressions, one by one.
* `Expr.eval_call_values` — a call hands these values to the body of the function.
-/

namespace JsonQuery

/-- Partners one by one make a list of partners. -/
theorem exists_forall₂ {α β : Type} {R : α → β → Prop} {as : List α} (h : ∀ a ∈ as, ∃ b, R a b) :
    ∃ bs, List.Forall₂ R as bs := by
  induction as with
  | nil => exact ⟨[], .nil⟩
  | cons a rest ih =>
    rw [List.forall_mem_cons] at h
    obtain ⟨⟨b, hb⟩, hrest⟩ := h
    obtain ⟨bs, hbs⟩ := ih hrest
    exact ⟨b :: bs, .cons hb hbs⟩

namespace Expr

variable {r : Registry} {v : Json} {e : Expr} {es : List Expr} {ws : List Json}

/-- These expressions have these values, one by one. -/
def Evaluates (r : Registry) (v : Json) : List Expr → List Json → Prop :=
  List.Forall₂ fun e w => (e.eval r v).result = .ok w

/-- Expressions of which each has a value of some form have a list of such values. -/
theorem exists_evaluates {α : Type} (f : α → Json) (h : ∀ e ∈ es, ∃ a, (e.eval r v).result = .ok (f a)) :
    ∃ as : List α, Evaluates r v es (as.map f) := by
  obtain ⟨as, has⟩ := exists_forall₂ h
  exact ⟨as, List.forall₂_map_right_iff.2 has⟩

theorem result_evalPairs {pairs : List (String × Expr)} (h : Evaluates r v (pairs.map Prod.snd) ws) :
    (evalPairs r pairs v).result = .ok ((pairs.map Prod.fst).zip ws) := by
  induction pairs generalizing ws with
  | nil =>
    cases h
    rfl
  | cons p rest ih =>
    obtain ⟨key, e⟩ := p
    cases h with
    | cons he h => exact Traced.result_bind_ok.2 ⟨_, he, Traced.result_bind_ok.2 ⟨_, ih h, rfl⟩⟩

/-- An expression that has a value is no reference. -/
theorem ne_reference {w : Json} (h : (e.eval r v).result = .ok w) (body : Expr) : e ≠ .reference body := by
  rintro rfl
  cases h

theorem result_evalArguments (h : Evaluates r v es ws) :
    (evalArguments r es v).result = .ok (ws.map .value) := by
  induction h with
  | nil => rfl
  | @cons e w es ws he _ ih =>
    obtain ⟨body, hbody, -⟩ | ⟨-, heq⟩ := evalArguments_cons (r := r) e es v
    · exact absurd hbody (ne_reference he body)
    · rw [heq]
      exact Traced.result_bind_ok.2 ⟨w, he, Traced.result_bind_ok.2 ⟨_, ih, rfl⟩⟩

/-- **A call hands the values of its arguments to the body of the function**; what fails softly there becomes
null. -/
theorem eval_call_values {name : String} {f : Function} (hfind : r.find? name = some f)
    (haccepts : f.arity.accepts es.length = true) (h : Evaluates r v es ws) :
    ((Expr.call name es).eval r v).result = Eval.settle (f.body (ws.map .value)).result := by
  rw [Expr.eval, Eval.call, hfind]
  dsimp only
  rw [if_pos haccepts, Traced.result_bind, result_evalArguments h, ok_bind, Eval.result_absorb]

end Expr

end JsonQuery
