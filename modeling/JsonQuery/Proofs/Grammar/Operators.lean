import JsonQuery.Proofs.Expr.Operators
import JsonQuery.Proofs.Grammar.Locality

/-!
# Reading infix operators

* `Stands` — tokens are read as an operand wherever nothing that follows binds to it alone.
* `InfixTree.reaches` — what the chain of an expression has read when it gets behind an ordered tree.
* `InfixTree.reads` — the tokens of an ordered tree are read as its expression.
-/

namespace JsonQuery

open Grammar

variable {arity? : String → Option Arity} {ts rest : List Token} {e : Expr}

/-! ## Operands -/

/-- Tokens are read as an operand in front of everything that binds no stronger than the comparisons. -/
def Grammar.Stands (arity? : String → Option Arity) (ts : List Token) (e : Expr) : Prop :=
  ∀ rest, Token.nextPower rest ≤ 5 → Primary arity? (Reads arity?) (ts ++ rest) e rest

/-- An opening parenthesis binds stronger than the comparisons. -/
theorem Grammar.ne_openParen (h : Token.nextPower rest ≤ 5) : ∀ more, rest ≠ .openParen :: more := by
  rintro more rfl
  simp [Token.power] at h

theorem Grammar.stands_identifier (name : String) :
    Stands arity? [.identifier name] (.identifier name) :=
  fun _ hrest => .identifier (ne_openParen hrest)

theorem Grammar.stands_quoted (name : String) : Stands arity? [.quoted name] (.identifier name) :=
  fun _ hrest => .quoted (ne_openParen hrest)

/-- A whole expression in parentheses is an operand. -/
theorem Grammar.Reads.stands (h : Reads arity? 0 ts e []) :
    Stands arity? (.openParen :: (ts ++ [.closeParen])) e := by
  intro rest _
  obtain ⟨t, pre, rfl, hread⟩ := h.local
  have hinner : Reads arity? 0 (t :: (pre ++ .closeParen :: rest)) e (.closeParen :: rest) :=
    hread (.closeParen :: rest) (Nat.le_refl _)
  have hgroup : Primary arity? (Reads arity?) (.openParen :: t :: (pre ++ .closeParen :: rest)) e rest :=
    .group hinner
  simpa using hgroup

/-! ## Operators -/

/-- An operator takes the expression before it as its left side. -/
theorem Infix.extension {o : Infix} {left right : Expr} (h : Reads arity? o.power ts right rest) :
    Extension (Reads arity?) left (o.token :: ts) (o.join left right) rest := by
  cases o with
  | pipe => exact .pipe h
  | binary op =>
    rw [Infix.power_binary] at h
    exact .binary (Infix.binaryOp?_token op) h

namespace InfixTree

variable {α : Type} {spelled : α → List Token} {leaf : α → Expr} {t : InfixTree α} {power : Nat}

/-- **What a chain has read.**  The tokens of an ordered tree take the chain to the expression of the
tree, if the root binds stronger than the power, and nothing behind the tree binds stronger than the
root. -/
theorem reaches (hstands : ∀ a, Stands arity? (spelled a) (leaf a)) (h : t.Ordered)
    (hrest : Token.nextPower rest ≤ 5)
    (hroot : ∀ p ∈ t.root?, power < p.power ∧ Token.nextPower rest ≤ p.power) :
    Reaches arity? power (t.row.tokens spelled ++ rest) (t.expr leaf) rest := by
  induction t generalizing power rest with
  | operand a =>
    rw [show (operand a).row.tokens spelled = spelled a from List.append_nil _]
    exact .start (hstands a rest hrest)
  | node o l r ihl ihr =>
    obtain ⟨hleft, hright, hl, hr⟩ := h
    obtain ⟨hpower, hnext⟩ := hroot o rfl
    have hbehind : Token.nextPower (o.token :: (r.row.tokens spelled ++ rest)) = o.power := Infix.power_token o
    -- in front of the operator the left side is read as far as the pending power lets it go; the right
    -- side is an expression of its own, with the operator's power pending
    have hreachl : Reaches arity? power (l.row.tokens spelled ++ o.token :: (r.row.tokens spelled ++ rest))
        (l.expr leaf) (o.token :: (r.row.tokens spelled ++ rest)) := by
      apply ihl hl
      · rw [hbehind]
        exact o.power_le
      · intro p hp
        have hle := hleft p hp
        omega
    have hreadr : Reads arity? o.power (r.row.tokens spelled ++ rest) (r.expr leaf) rest := by
      refine reads_iff.2 ⟨ihr hr hrest fun p hp => ?_, hnext⟩
      have hlt := hright p hp
      omega
    have hstronger : power < Token.nextPower (o.token :: (r.row.tokens spelled ++ rest)) := by
      rw [hbehind]
      exact hpower
    have hlink := hreachl.link hstronger (Infix.extension hreadr)
    simpa [tokens_node, expr] using hlink

/-- The tokens of an ordered tree are read as its expression. -/
theorem reads (hstands : ∀ a, Stands arity? (spelled a) (leaf a)) (h : t.Ordered) :
    Reads arity? 0 (t.row.tokens spelled) (t.expr leaf) [] := by
  have hreach : Reaches arity? 0 (t.row.tokens spelled ++ []) (t.expr leaf) [] :=
    reaches hstands h (Nat.zero_le 5) fun p _ => ⟨p.power_pos, Nat.zero_le _⟩
  rw [List.append_nil] at hreach
  exact reads_iff.2 ⟨hreach, Nat.le_refl 0⟩

end InfixTree

end JsonQuery
