import JsonQuery.Proofs.Eval.Congruence
import JsonQuery.Proofs.Expr.Node

/-!
# Expressions with related results

* `Expr.Related` — two expressions have related results, also as arguments of a call; every node keeps
  this of the nodes below it.
* `Expr.related_self` — an expression has related results with the functions of two registries, if the
  functions that it calls are related.
-/

namespace JsonQuery

namespace Expr

/-- Two expressions have related results, also as arguments of a call: neither is a reference, or both
are.  The first one calls the functions of `r`, the second one those of `r'`. -/
inductive Related (Q : Congruence) (r r' : Registry) : Expr → Expr → Prop
  | plain {e e'} : (∀ body, e ≠ .reference body) → (∀ body, e' ≠ .reference body) →
      (∀ v, Q.holds (e.eval r v).result (e'.eval r' v).result) → Related Q r r' e e'
  | reference {body body'} : (∀ v, Q.holds (body.eval r v).result (body'.eval r' v).result) →
      Related Q r r' (.reference body) (.reference body')

variable {Q : Congruence} {r r' : Registry} {e e' a a' b b' p p' : Expr}

theorem Related.eval (h : Related Q r r' e e') (v : Json) :
    Q.holds (e.eval r v).result (e'.eval r' v).result := by
  cases h with
  | plain _ _ h => exact h v
  | reference => exact Q.refl _

theorem Related.refl (e : Expr) : Related Q r r e e := by
  cases e with
  | reference body => exact .reference fun _ => Q.refl _
  | _ => exact .plain nofun nofun fun _ => Q.refl _

/-! ## Lists -/

theorem evalItems_related {es es' : List Expr} (h : List.Forall₂ (Related Q r r') es es') (v : Json) :
    Q.holds (evalItems r es v).result (evalItems r' es' v).result := by
  induction h with
  | nil => exact Q.refl _
  | cons h _ ih =>
    exact Q.traced_bind (h.eval v) fun _ => Q.traced_bind ih fun _ => Q.refl _

theorem evalPairs_related {ps ps' : List (String × Expr)}
    (h : List.Forall₂ (fun p p' => p.1 = p'.1 ∧ Related Q r r' p.2 p'.2) ps ps') (v : Json) :
    Q.holds (evalPairs r ps v).result (evalPairs r' ps' v).result := by
  induction h with
  | nil => exact Q.refl _
  | @cons p p' _ _ h _ ih =>
    obtain ⟨key, e⟩ := p
    obtain ⟨key', e'⟩ := p'
    obtain ⟨rfl, h⟩ := h
    exact Q.traced_bind (h.eval v) fun _ => Q.traced_bind ih fun _ => Q.refl _

/-- What is done with the arguments of a call. -/
theorem evalArguments_bind_related {α : Type} {es es' : List Expr}
    (h : List.Forall₂ (Related Q r r') es es') (v : Json) {k k' : List Argument → Traced α}
    (hk : ∀ xs xs', List.Forall₂ (Argument.Related Q) xs xs' → Q.holds (k xs).result (k' xs').result) :
    Q.holds (evalArguments r es v >>= k).result (evalArguments r' es' v >>= k').result := by
  induction h generalizing k k' with
  | nil =>
    show Q.holds (pure [] >>= k).result (pure [] >>= k').result
    rw [Traced.result_bind, Traced.result_bind]
    exact hk [] [] .nil
  | @cons e e' es es' h _ ih =>
    cases h with
    | @reference body body' h =>
      rw [evalArguments, evalArguments, Traced.result_bind_assoc, Traced.result_bind_assoc]
      exact ih fun xs xs' hxs => hk _ _ (.cons (.reference h) hxs)
    | plain he he' h =>
      obtain ⟨b, hb, _⟩ | ⟨_, heq⟩ := evalArguments_cons (r := r) e es v
      · exact absurd hb (he b)
      obtain ⟨b, hb, _⟩ | ⟨_, heq'⟩ := evalArguments_cons (r := r') e' es' v
      · exact absurd hb (he' b)
      rw [heq, heq', Traced.result_bind_assoc, Traced.result_bind_assoc]
      refine Q.traced_bind (h v) fun x => ?_
      rw [Traced.result_bind_assoc, Traced.result_bind_assoc]
      exact ih fun xs xs' hxs => hk _ _ (.cons (.value x) hxs)

/-! ## Nodes -/

theorem Related.subexpr (ha : Related Q r r' a a') (hb : Related Q r r' b b') :
    Related Q r r' (.subexpr a b) (.subexpr a' b') :=
  .plain nofun nofun fun v => by
    show Q.holds (a.eval r v >>= b.eval r).result (a'.eval r' v >>= b'.eval r').result
    exact Q.traced_bind (ha.eval v) hb.eval

theorem Related.pipe (ha : Related Q r r' a a') (hb : Related Q r r' b b') :
    Related Q r r' (.pipe a b) (.pipe a' b') :=
  .plain nofun nofun fun v => by
    show Q.holds (a.eval r v >>= b.eval r).result (a'.eval r' v >>= b'.eval r').result
    exact Q.traced_bind (ha.eval v) hb.eval

theorem Related.project {kind : Projection} (ha : Related Q r r' a a') (hb : Related Q r r' b b') :
    Related Q r r' (.project kind a b) (.project kind a' b') :=
  .plain nofun nofun fun v => by
    refine Q.traced_bind (ha.eval v) fun w => Q.traced_bind (Q.refl _) fun selected => ?_
    cases selected with
    | none => exact Q.refl _
    | some items => exact Q.traced_bind (Q.collect hb.eval items) fun _ => Q.refl _

theorem Related.filter (hp : Related Q r r' p p') (ha : Related Q r r' a a')
    (hb : Related Q r r' b b') : Related Q r r' (.filter p a b) (.filter p' a' b') :=
  .plain nofun nofun fun v => by
    refine Q.traced_bind (ha.eval v) fun w => ?_
    cases w with
    | array items =>
      exact Q.traced_bind (Q.keep hp.eval items) fun kept =>
        Q.traced_bind (Q.collect hb.eval kept) fun _ => Q.refl _
    | _ => exact Q.refl _

theorem Related.multiList {es es' : List Expr} (h : List.Forall₂ (Related Q r r') es es') :
    Related Q r r' (.multiList es) (.multiList es') :=
  .plain nofun nofun fun v => by
    show Q.holds
      (if v.isNull then pure Json.null else evalItems r es v >>= fun vs => pure (Json.array vs)).result
      (if v.isNull then pure Json.null else evalItems r' es' v >>= fun vs => pure (Json.array vs)).result
    split
    · exact Q.refl _
    · exact Q.traced_bind (evalItems_related h v) fun _ => Q.refl _

theorem Related.multiHash {ps ps' : List (String × Expr)}
    (h : List.Forall₂ (fun p p' => p.1 = p'.1 ∧ Related Q r r' p.2 p'.2) ps ps') :
    Related Q r r' (.multiHash ps) (.multiHash ps') :=
  .plain nofun nofun fun v => by
    show Q.holds
      (if v.isNull then pure Json.null else evalPairs r ps v >>= fun ms => pure (Json.ofMembers ms)).result
      (if v.isNull then pure Json.null else evalPairs r' ps' v >>= fun ms => pure (Json.ofMembers ms)).result
    split
    · exact Q.refl _
    · exact Q.traced_bind (evalPairs_related h v) fun _ => Q.refl _

theorem Related.call {name : String} (hfind : Option.Rel (Function.Related Q) (r.find? name) (r'.find? name))
    {es es' : List Expr} (h : List.Forall₂ (Related Q r r') es es') :
    Related Q r r' (.call name es) (.call name es') := by
  refine .plain nofun nofun fun v => ?_
  show Q.holds (Eval.call r name es.length (evalArguments r es v)).result
    (Eval.call r' name es'.length (evalArguments r' es' v)).result
  unfold Eval.call
  rw [← h.length_eq]
  generalize r.find? name = found, r'.find? name = found' at hfind
  cases hfind with
  | none => exact Q.refl _
  | @some f f' hf =>
    obtain ⟨harity, hbody⟩ := hf
    simp only [harity]
    split
    · exact evalArguments_bind_related h v fun xs xs' hxs => Q.absorb (hbody xs xs' hxs)
    · exact Q.refl _

theorem Related.referenceTo (h : Related Q r r' a a') : Related Q r r' (.reference a) (.reference a') :=
  .reference h.eval

theorem Related.not (h : Related Q r r' a a') : Related Q r r' (.not a) (.not a') :=
  .plain nofun nofun fun v => by
    exact Q.traced_bind (h.eval v) fun _ => Q.refl _

theorem Related.resembles {regex : Regex} (h : Related Q r r' a a') :
    Related Q r r' (.resembles regex a) (.resembles regex a') :=
  .plain nofun nofun fun v => by
    exact Q.traced_bind (h.eval v) fun _ => Q.refl _

theorem Related.binary {op : BinaryOp} (ha : Related Q r r' a a') (hb : Related Q r r' b b') :
    Related Q r r' (.binary op a b) (.binary op a' b') := by
  refine .plain nofun nofun fun v => ?_
  cases op with
  | or =>
    refine Q.traced_bind (ha.eval v) fun w => ?_
    split
    · exact Q.refl _
    · exact hb.eval v
  | and =>
    refine Q.traced_bind (ha.eval v) fun w => ?_
    split
    · exact hb.eval v
    · exact Q.refl _
  | _ =>
    exact Q.traced_bind (ha.eval v) fun _ => Q.traced_bind (hb.eval v) fun _ => Q.refl _

/-! ## Two registries -/

/-- **The same expression with two registries.**  Its results are related if the functions that it calls
are, wherever in it the calls stand. -/
theorem related_self (h : ∀ name args, Within (.call name args) e →
    Option.Rel (Function.Related Q) (r.find? name) (r'.find? name)) : Related Q r r' e e := by
  induction e using children_induction with
  | step e ih =>
    have hchild : ∀ c ∈ e.children, Related Q r r' c c :=
      fun c hc => ih c hc fun name args hwithin => h name args (.child hwithin hc)
    cases e with
    | current | identifier | literal => exact .plain nofun nofun fun v => Q.refl _
    | index place =>
      refine .plain nofun nofun fun v => ?_
      cases v <;> exact Q.refl _
    | subexpr a b => exact .subexpr (hchild a (by simp [children])) (hchild b (by simp [children]))
    | pipe a b => exact .pipe (hchild a (by simp [children])) (hchild b (by simp [children]))
    | project kind a b => exact .project (hchild a (by simp [children])) (hchild b (by simp [children]))
    | filter p a b =>
      exact .filter (hchild p (by simp [children])) (hchild a (by simp [children]))
        (hchild b (by simp [children]))
    | multiList items => exact .multiList (List.forall₂_same.2 hchild)
    | multiHash pairs =>
      refine .multiHash (List.forall₂_same.2 fun p hp => ⟨rfl, ?_⟩)
      exact hchild p.2 (List.mem_map_of_mem hp)
    | call name args => exact .call (h name args (.refl _)) (List.forall₂_same.2 hchild)
    | reference a => exact .referenceTo (hchild a (by simp [children]))
    | binary op a b => exact .binary (hchild a (by simp [children])) (hchild b (by simp [children]))
    | not a => exact .not (hchild a (by simp [children]))
    | resembles regex a => exact .resembles (hchild a (by simp [children]))

end Expr

end JsonQuery
