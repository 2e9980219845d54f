import JsonQuery.Expr

/-!
# Nodes of an expression

* `Expr.children` — the nodes directly below a node, in the order in which they are written.
* `Expr.Within` — one expression stands somewhere in another.
* `Expr.children_induction` — induction on trees, from the nodes directly below to the node.
* `Expr.All` — a property of every node; `all_iff` takes it down one level.
-/

namespace JsonQuery.Expr

/-- The nodes directly below a node. -/
def children : Expr → List Expr
  | .current | .identifier _ | .index _ | .literal _ => []
  | .subexpr a b | .pipe a b | .project _ a b | .binary _ a b => [a, b]
  | .filter p a b => [p, a, b]
  | .multiList items => items
  | .multiHash pairs => pairs.map Prod.snd
  | .call _ args => args
  | .reference a | .not a | .resembles _ a => [a]

theorem sizeOf_lt_of_mem_children {c e : Expr} (h : c ∈ e.children) : sizeOf c < sizeOf e := by
  cases e with
  | current | identifier | index | literal => cases h
  | multiList items =>
    have : sizeOf c < sizeOf items := List.sizeOf_lt_of_mem h
    simp only [multiList.sizeOf_spec]
    omega
  | call name args =>
    have : sizeOf c < sizeOf args := List.sizeOf_lt_of_mem h
    simp only [call.sizeOf_spec]
    omega
  | multiHash pairs =>
    obtain ⟨⟨key, a⟩, hmem, rfl⟩ := List.mem_map.1 h
    have := List.sizeOf_lt_of_mem hmem
    simp only [multiHash.sizeOf_spec]
    simp only [Prod.mk.sizeOf_spec] at this
    omega
  | _ =>
    simp only [children, List.mem_cons, List.not_mem_nil, or_false] at h
    rcases h with rfl | rfl | rfl <;> simp <;> omega

/-- Induction on trees: a property of all nodes directly below a node passes on to the node. -/
theorem children_induction {P : Expr → Prop} (step : ∀ e, (∀ c ∈ e.children, P c) → P e) (e : Expr) :
    P e :=
  step e fun c _ => children_induction step c
termination_by sizeOf e
decreasing_by exact sizeOf_lt_of_mem_children ‹_›

/-- The first expression is the second or stands somewhere below it. -/
inductive Within : Expr → Expr → Prop
  | refl (e : Expr) : Within e e
  | child {n c e : Expr} : Within n c → c ∈ e.children → Within n e

theorem Within.trans {a b c : Expr} (hab : Within a b) (hbc : Within b c) : Within a c := by
  induction hbc with
  | refl => exact hab
  | child _ hmem ih => exact .child ih hmem

/-- A property of every node of a tree. -/
def All (N : Expr → Prop) (e : Expr) : Prop := ∀ n, Within n e → N n

variable {N : Expr → Prop} {e : Expr}

theorem all_iff : e.All N ↔ N e ∧ ∀ c ∈ e.children, c.All N := by
  constructor
  · intro h
    exact ⟨h e (.refl e), fun c hc n hn => h n (.child hn hc)⟩
  · rintro ⟨he, hchildren⟩ n hn
    cases hn with
    | refl => exact he
    | child hn hc => exact hchildren _ hc n hn

theorem all_leaf (he : N e) (h : e.children = []) : e.All N := by
  refine all_iff.2 ⟨he, fun c hc => ?_⟩
  rw [h] at hc
  cases hc

theorem All.self (h : e.All N) : N e := h e (.refl e)

theorem All.child (h : e.All N) {c : Expr} (hc : c ∈ e.children) : c.All N :=
  fun n hn => h n (.child hn hc)

end JsonQuery.Expr
