import JsonQuery.Expr.Grammar
import JsonQuery.Proofs.Eval.Related
import JsonQuery.Proofs.Library.References

/-!
# Expressions with the same results

* `Expr.Alike` — two expressions have the same results, also as arguments of a call.
* `Expr.Behind` — the results of an expression are made of those of another one by a further step.
* `Expr.filter_true` — a filter that is always true has the results of the projection of a list.
-/

namespace JsonQuery

namespace Expr

/-- Two expressions have the same results, also as arguments of a call: neither is a reference, or
both are. -/
abbrev Alike (r : Registry) : Expr → Expr → Prop := Related .equality r r

variable {r : Registry} {e e' a a' b b' p p' : Expr}

theorem Alike.eval (h : Alike r e e') (v : Json) : (e.eval r v).result = (e'.eval r v).result :=
  Related.eval h v

theorem Alike.call (hr : r.Respects) {name : String} {es es' : List Expr}
    (h : List.Forall₂ (Alike r) es es') : Alike r (.call name es) (.call name es') := by
  refine Related.call ?_ h
  cases hfind : r.find? name with
  | none => exact .none
  | some f => exact .some ⟨rfl, Body.respects_iff.1 (hr name f hfind)⟩

/-! ## Further steps -/

/-- The results of an expression are made of those of another one by a further step. -/
def Behind (r : Registry) (left : Expr) (step : Json → Except Failure Json) (e : Expr) : Prop :=
  (∀ body, e ≠ .reference body) ∧ ∀ v, (e.eval r v).result = (left.eval r v).result >>= step

theorem Behind.trans {step next : Json → Except Failure Json} (h : Behind r a step b)
    (h' : Behind r b next e) : Behind r a (fun w => step w >>= next) e :=
  ⟨h'.1, fun v => by rw [h'.2, h.2, bind_assoc]⟩

theorem Behind.congr {step : Json → Except Failure Json} (h : Behind r a step e) (ha : Alike r a a') :
    Behind r a' step e :=
  ⟨h.1, fun v => by rw [h.2, ha.eval]⟩

theorem Behind.alike {step : Json → Except Failure Json} (h : Behind r a step e)
    (h' : Behind r a step e') : Alike r e e' :=
  .plain h.1 h'.1 fun v => (h.2 v).trans (h'.2 v).symm

theorem behind_subexpr (left rhs : Expr) :
    Behind r left (fun w => (rhs.eval r w).result) (.subexpr left rhs) := by
  refine ⟨nofun, fun v => ?_⟩
  rw [Expr.eval, Traced.result_bind]

/-- A step behind the right side of a dot is a step behind the whole. -/
theorem Behind.subexpr {step : Json → Except Failure Json} (h : Behind r a step e) (left : Expr) :
    Behind r (.subexpr left a) step (.subexpr left e) := by
  refine ⟨nofun, fun v => ?_⟩
  rw [(behind_subexpr left e).2, (behind_subexpr left a).2, bind_assoc]
  exact congrArg _ (funext h.2)

theorem behind_project (kind : Projection) (left rhs : Expr) :
    Behind r left (fun w => ((Expr.project kind .current rhs).eval r w).result)
      (.project kind left rhs) := by
  refine ⟨nofun, fun v => ?_⟩
  simp only [Expr.eval, Traced.result_bind]
  rfl

theorem behind_indexed (left : Expr) (n : Int64) :
    Behind r left (fun w => ((Expr.index n).eval r w).result) (Grammar.indexed left n) := by
  unfold Grammar.indexed
  split
  · exact ⟨nofun, fun v => rfl⟩
  · exact behind_subexpr left (.index n)

theorem Alike.indexed {n : Int64} (h : Alike r a a') :
    Alike r (Grammar.indexed a n) (Grammar.indexed a' n) :=
  ((behind_indexed a n).congr h).alike (behind_indexed a' n)

/-! ## The filter that is always true -/

theorem keep_true {test : Json → Traced Json} (h : ∀ v, (test v).result = .ok (.bool true))
    (items : List Json) :
    (Eval.keep test items).result = .ok (items.filter fun v => !v.isNull) := by
  induction items with
  | nil => rfl
  | cons v rest ih =>
    unfold Eval.keep
    by_cases hv : v.isNull = true
    · simp [hv, ih]
    · simp only [hv, Bool.false_eq_true, if_false, Traced.result_bind, h v, ih]
      simp [hv]
      rfl

theorem collect_filter (run : Json → Traced Json) (items : List Json) :
    Eval.collect run (items.filter fun v => !v.isNull) = Eval.collect run items := by
  induction items with
  | nil => rfl
  | cons v rest ih =>
    by_cases hv : v.isNull = true
    · simp [hv, Eval.collect, ih]
    · simp [hv, Eval.collect, ih]

/-- A filter that is always true has the results of the projection of a list. -/
theorem filter_true (left rhs : Expr) (v : Json) :
    ((Expr.filter (.literal (.bool true)) left rhs).eval r v).result =
      ((Expr.project .list left rhs).eval r v).result := by
  rw [Expr.eval, Expr.eval]
  refine Traced.result_bind_congr rfl fun w => ?_
  cases w with
  | array items =>
    rw [Traced.result_bind, keep_true fun _ => by rw [Expr.eval]; rfl]
    change (Eval.collect (rhs.eval r) (items.filter fun v => !v.isNull) >>= fun ws =>
      pure (Json.array ws)).result = _
    rw [collect_filter, Traced.result_bind (Traced.ofExcept _)]
    rfl
  | _ => rfl

theorem Alike.filter_true : Alike r (.project .list a b) (.filter (.literal (.bool true)) a b) :=
  .plain nofun nofun fun v => (Expr.filter_true a b v).symm

end Expr

end JsonQuery
