import JsonQuery.Expr.Grammar

/-!
# Trees of infix operators

* `Infix` — the pipe and the binary operators, with their binding powers.
* `InfixRow` — operands with operators between them; `InfixTree.row` reads a tree in order.
* `InfixTree.Ordered` — weaker operators stand above stronger ones, equal ones group to the left.
* `InfixTree.ofRow_row` — a row has exactly one ordered tree, built by pushing operators in one by one.
-/

namespace JsonQuery

/-- An infix operator: the pipe or a binary operator. -/
inductive Infix where
  | pipe
  | binary (op : BinaryOp)

namespace Infix

/-- How strongly an operator binds: first the pipe, then the alternative, the conjunction and the
comparisons. -/
def power : Infix → Nat
  | pipe => 1
  | binary .or => 2
  | binary .and => 3
  | binary _ => 5

/-- The sign of an operator. -/
def sign : Infix → String
  | pipe => "|"
  | binary op => op.sign

/-- The token of an operator. -/
def token : Infix → Token
  | pipe => .pipe
  | binary .or => .or
  | binary .and => .and
  | binary .eq => .eq
  | binary .ne => .ne
  | binary .lt => .lt
  | binary .le => .le
  | binary .gt => .gt
  | binary .ge => .ge

/-- The expression of an operator on two sides. -/
def join : Infix → Expr → Expr → Expr
  | pipe, l, r => .pipe l r
  | binary op, l, r => .binary op l r

theorem power_pos (o : Infix) : 0 < o.power := by
  rcases o with _ | op
  · decide
  · cases op <;> decide

theorem power_le (o : Infix) : o.power ≤ 5 := by
  rcases o with _ | op
  · decide
  · cases op <;> decide

/-- The table of the tokens agrees with the powers. -/
@[simp] theorem power_token (o : Infix) : o.token.power = o.power := by
  rcases o with _ | op
  · rfl
  · cases op <;> rfl

/-- The table of the operators agrees with the powers, too. -/
theorem power_binary (op : BinaryOp) : (binary op).power = op.power := by
  cases op <;> rfl

@[simp] theorem binaryOp?_token (op : BinaryOp) : Grammar.binaryOp? (binary op).token = some op := by
  cases op <;> rfl

end Infix

/-- Operands with operators between them. -/
structure InfixRow (α : Type) where
  first : α
  rest : List (Infix × α)

/-- The tokens of a row, given those of its operands. -/
def InfixRow.tokens {α : Type} (spelled : α → List Token) (row : InfixRow α) : List Token :=
  spelled row.first ++ row.rest.flatMap fun p => p.1.token :: spelled p.2

/-- A tree of operators over operands. -/
inductive InfixTree (α : Type) where
  | operand (a : α)
  | node (op : Infix) (left right : InfixTree α)

namespace InfixTree

variable {α : Type} {t u l r : InfixTree α} {o p : Infix} {a : α} {rest : List (Infix × α)}

/-- A tree, read in order. -/
def row : InfixTree α → InfixRow α
  | operand a => ⟨a, []⟩
  | node o l r => ⟨l.row.first, l.row.rest ++ (o, r.row.first) :: r.row.rest⟩

/-- The operator at the root, unless the tree is an operand. -/
def root? : InfixTree α → Option Infix
  | operand _ => none
  | node o _ _ => some o

/-- Every operator has no weaker one at the root of its left side and only stronger ones at the root of
its right side. -/
def Ordered : InfixTree α → Prop
  | operand _ => True
  | node o l r => (∀ p ∈ l.root?, o.power ≤ p.power) ∧ (∀ p ∈ r.root?, o.power < p.power) ∧
      l.Ordered ∧ r.Ordered

/-- The expression of a tree, given those of its operands. -/
def expr (leaf : α → Expr) : InfixTree α → Expr
  | operand a => leaf a
  | node o l r => o.join (l.expr leaf) (r.expr leaf)

theorem tokens_node (spelled : α → List Token) : (node o l r).row.tokens spelled =
    l.row.tokens spelled ++ o.token :: r.row.tokens spelled := by
  simp [row, InfixRow.tokens]

/-! ## Pushing an operator in -/

/-- A tree with an operator and an operand behind it: the operator takes what binds no weaker as its left
side. -/
def push (o : Infix) (a : α) : InfixTree α → InfixTree α
  | operand b => node o (operand b) (operand a)
  | node p l r => if p.power < o.power then node p l (push o a r) else node o (node p l r) (operand a)

theorem row_push (o : Infix) (a : α) (t : InfixTree α) :
    (t.push o a).row = ⟨t.row.first, t.row.rest ++ [(o, a)]⟩ := by
  induction t with
  | operand b => rfl
  | node p l r _ ih =>
    rw [push]
    split
    · simp [row, ih]
    · rfl

theorem root_push (h : p ∈ (t.push o a).root?) : p = o ∨ p ∈ t.root? := by
  cases t with
  | operand b =>
    cases h
    exact .inl rfl
  | node q l r =>
    rw [push] at h
    split at h
    · exact .inr h
    · cases h
      exact .inl rfl

theorem Ordered.push (h : t.Ordered) (o : Infix) (a : α) : (t.push o a).Ordered := by
  induction t with
  | operand b => exact ⟨nofun, nofun, trivial, trivial⟩
  | node p l r _ ih =>
    have hself : (node p l r).Ordered := h
    obtain ⟨hleft, hright, hl, hr⟩ := h
    rw [InfixTree.push]
    split
    · rename_i hweaker
      refine ⟨hleft, fun q hq => ?_, hl, ih hr⟩
      rcases root_push hq with rfl | hq
      · exact hweaker
      · exact hright q hq
    · rename_i hstronger
      refine ⟨fun q hq => ?_, nofun, hself, trivial⟩
      cases hq
      omega

/-! ## The tree of a row -/

/-- The tree with further operators and operands behind it. -/
def pushAll (t : InfixTree α) (rest : List (Infix × α)) : InfixTree α :=
  rest.foldl (fun t p => t.push p.1 p.2) t

/-- The tree of a row. -/
def ofRow (row : InfixRow α) : InfixTree α := (operand row.first).pushAll row.rest

theorem row_pushAll : (t.pushAll rest).row = ⟨t.row.first, t.row.rest ++ rest⟩ := by
  induction rest generalizing t with
  | nil => simp [pushAll]
  | cons p rest ih =>
    have hstep := ih (t := t.push p.1 p.2)
    rw [row_push] at hstep
    simpa [pushAll] using hstep

theorem Ordered.pushAll (h : t.Ordered) : (t.pushAll rest).Ordered := by
  induction rest generalizing t with
  | nil => exact h
  | cons p rest ih => exact ih (h.push p.1 p.2)

theorem row_ofRow (row : InfixRow α) : (ofRow row).row = row := row_pushAll

theorem ordered_ofRow (row : InfixRow α) : (ofRow row).Ordered :=
  Ordered.pushAll (t := operand row.first) trivial

/-! ## There is no other -/

/-- No operator of an ordered tree is weaker than its root. -/
theorem Ordered.le_power {n : Nat} (h : t.Ordered) (hroot : ∀ p ∈ t.root?, n ≤ p.power) :
    ∀ q ∈ t.row.rest, n ≤ q.1.power := by
  induction t with
  | operand a => nofun
  | node p l r ihl ihr =>
    obtain ⟨hleft, hright, hl, hr⟩ := h
    have hp : n ≤ p.power := hroot p rfl
    intro q hq
    rcases List.mem_append.1 hq with hq | hq
    · exact ihl hl (fun s hs => Nat.le_trans hp (hleft s hs)) q hq
    · rcases List.mem_cons.1 hq with rfl | hq
      · exact hp
      · exact ihr hr (fun s hs => Nat.le_trans hp (Nat.le_of_lt (hright s hs))) q hq

/-- What binds stronger is pushed into the right side. -/
theorem pushAll_node (h : ∀ q ∈ rest, o.power < q.1.power) :
    (node o l r).pushAll rest = node o l (r.pushAll rest) := by
  induction rest generalizing r with
  | nil => rfl
  | cons q rest ih =>
    have hq : o.power < q.1.power := h q List.mem_cons_self
    have hpush : (node o l r).push q.1 q.2 = node o l (r.push q.1 q.2) := if_pos hq
    calc (node o l r).pushAll (q :: rest) = ((node o l r).push q.1 q.2).pushAll rest := rfl
      _ = (node o l (r.push q.1 q.2)).pushAll rest := by rw [hpush]
      _ = node o l ((r.push q.1 q.2).pushAll rest) := ih fun s hs => h s (List.mem_cons_of_mem q hs)

/-- **An ordered tree is the tree of its row**, so that a row has no other. -/
theorem ofRow_row (h : t.Ordered) : ofRow t.row = t := by
  induction t with
  | operand a => rfl
  | node o l r ihl ihr =>
    obtain ⟨hleft, hright, hl, hr⟩ := h
    -- pushed behind the left side the root takes all of it, and what follows goes into the right side
    have hpush : l.push o r.row.first = node o l (operand r.row.first) := by
      cases l with
      | operand b => rfl
      | node p l' r' =>
        have hle : o.power ≤ p.power := hleft p rfl
        exact if_neg (by omega)
    have hstronger : ∀ q ∈ r.row.rest, o.power < q.1.power := hr.le_power hright
    calc ofRow (node o l r).row
        = ((ofRow l.row).push o r.row.first).pushAll r.row.rest := by
          simp only [ofRow, pushAll, row, List.foldl_append, List.foldl_cons]
      _ = (node o l (operand r.row.first)).pushAll r.row.rest := by rw [ihl hl, hpush]
      _ = node o l ((operand r.row.first).pushAll r.row.rest) := pushAll_node hstronger
      _ = node o l r := congrArg (node o l) (ihr hr)

end InfixTree

end JsonQuery
