import JsonQuery.Proofs.Grammar.Reading

/-!
# Induction on a reading

* `Primary.imp`, `Extension.imp` — the rules of the grammar are monotone in the readings of nested
  expressions.
* `expression_induction` — what holds of the start of an expression and is kept by every step of its
  chain holds of every expression that is read.
-/

namespace JsonQuery.Grammar

variable {arity? : String → Option Arity} {power : Nat} {ts rest : List Token} {e left lhs : Expr}

/-! ## More readings of nested expressions -/

theorem Sequence.imp {α : Type} {item item' : List Token → α → List Token → Prop} {close : Closing}
    (hitem : ∀ {ts a rest}, item ts a rest → item' ts a rest) {ts rest : List Token} {as : List α}
    (h : Sequence item close ts as rest) : Sequence item' close ts as rest := by
  induction h with
  | last h hclose => exact .last (hitem h) hclose
  | more h hlt _ ih => exact .more (hitem h) hlt ih

section Monotone

variable {S S' : Reading} (hS : ∀ {power ts e rest}, S power ts e rest → S' power ts e rest)
include hS

theorem Named.imp {p : String × Expr} (h : Named S ts p rest) : Named S' ts p rest := by
  cases h with
  | identifier h => exact .identifier (hS h)
  | quoted h => exact .quoted (hS h)

theorem AfterDot.imp (h : AfterDot S power ts e rest) : AfterDot S' power ts e rest := by
  cases h with
  | list h => exact .list (h.imp hS)
  | hash h => exact .hash (h.imp (Named.imp hS))
  | step ht h => exact .step ht (hS h)

theorem Projected.imp (h : Projected S power ts e rest) : Projected S' power ts e rest := by
  cases h with
  | none h => exact .none h
  | dot h => exact .dot (h.imp hS)
  | bracket h => exact .bracket (hS h)
  | filter h => exact .filter (hS h)

theorem Bracketed.imp (h : Bracketed S lhs ts e rest) : Bracketed S' lhs ts e rest := by
  cases h with
  | index => exact .index
  | list h => exact .list (h.imp hS)
  | slice hzero h => exact .slice hzero (h.imp hS)

theorem Filtered.imp (h : Filtered S lhs ts e rest) : Filtered S' lhs ts e rest := by
  obtain ⟨hpredicate, hrhs⟩ := h
  exact .mk (hS hpredicate) (hrhs.imp hS)

theorem Arguments.imp {args : List Expr} (h : Arguments S ts args rest) :
    Arguments S' ts args rest := by
  cases h with
  | none => exact .none
  | some hparen h => exact .some hparen (h.imp hS)

theorem Primary.imp (h : Primary arity? S ts e rest) : Primary arity? S' ts e rest := by
  cases h with
  | current => exact .current
  | identifier hparen => exact .identifier hparen
  | call harity haccepts h => exact .call harity haccepts (h.imp hS)
  | quoted hparen => exact .quoted hparen
  | raw => exact .raw
  | literal => exact .literal
  | values h => exact .values (h.imp hS)
  | bracketed h => exact .bracketed (h.imp hS)
  | multiList hbracket h => exact .multiList hbracket (h.imp hS)
  | flatten h => exact .flatten (h.imp hS)
  | filter h => exact .filter (h.imp hS)
  | multiHash h => exact .multiHash (h.imp (Named.imp hS))
  | reference h => exact .reference (hS h)
  | not h => exact .not (hS h)
  | group h => exact .group (hS h)

theorem Extension.imp (h : Extension S left ts e rest) : Extension S' left ts e rest := by
  cases h with
  | values h => exact .values (h.imp hS)
  | subexpr hstar h => exact .subexpr hstar (h.imp hS)
  | bracketed h => exact .bracketed (h.imp hS)
  | flatten h => exact .flatten (h.imp hS)
  | filter h => exact .filter (h.imp hS)
  | pipe h => exact .pipe (hS h)
  | resembles hregex => exact .resembles hregex
  | binary hop h => exact .binary hop (hS h)

end Monotone

/-! ## Induction on a reading -/

variable {limit : Nat}

/-- The readings within an allowance that have a property for that allowance. -/
def readingsWith (arity? : String → Option Arity) (limit : Nat)
    (P : Nat → Nat → List Token → Expr → List Token → Prop) (depth : Nat) : Reading :=
  fun power ts e rest =>
    expression arity? limit depth power ts = .ok (e, rest) ∧ P depth power ts e rest

/-- **Induction on the run of the reader.**  `C` is the invariant of a chain: it holds of how an
expression starts (`start`), each token that takes it further keeps it (`step`), and at the end of
the chain it gives `P` (`stop`).  Nested expressions come with `P` for the allowance they are read
with; `C` is told the allowance at the start of the chain and what is left of it. -/
theorem expression_induction {P : Nat → Nat → List Token → Expr → List Token → Prop}
    {C : Nat → Nat → Nat → List Token → Expr → List Token → Prop}
    (start : ∀ depth power ts left mid,
      Primary arity? (readingsWith arity? limit P depth) ts left mid →
      C depth depth power ts left mid)
    (step : ∀ depth n power ts left mid left' mid', C depth (n + 1) power ts left mid →
      power < Token.nextPower mid →
      Extension (readingsWith arity? limit P n) left mid left' mid' →
      C depth n power ts left' mid')
    (stop : ∀ depth n power ts e rest, C depth n power ts e rest →
      Token.nextPower rest ≤ power → P (depth + 1) power ts e rest) :
    ∀ depth power ts e rest, expression arity? limit depth power ts = .ok (e, rest) →
      P depth power ts e rest := by
  intro depth
  induction depth using Nat.strongRecOn with
  | ind depth ih =>
    intro power ts e rest h
    cases depth with
    | zero =>
      rw [expression] at h
      cases h
    | succ depth =>
      -- nested readings have the property, as they are given less
      have hwith : ∀ n ≤ depth, ∀ {power ts e rest},
          readings (expression arity? limit n) power ts e rest →
          readingsWith arity? limit P n power ts e rest :=
        fun n hn {_ _ _ _} h => ⟨h, ih n (by omega) _ _ _ _ h⟩
      have hchain : ∀ n ≤ depth, ∀ left mid, C depth n power ts left mid →
          chain arity? limit n power left mid = .ok (e, rest) → P (depth + 1) power ts e rest := by
        intro n
        induction n with
        | zero =>
          intro _ left mid hC hchain
          rw [chain] at hchain
          split at hchain
          · cases hchain
            exact stop _ _ _ _ _ _ hC ‹_›
          · cases hchain
        | succ n ihn =>
          intro hn left mid hC hchain
          rw [chain] at hchain
          split at hchain
          · cases hchain
            exact stop _ _ _ _ _ _ hC ‹_›
          · rename_i hpower
            split at hchain
            · cases hchain
            · rename_i left' mid' hextend
              have hext := (extend_ok.1 hextend).imp (hwith n (by omega))
              exact ihn (by omega) left' mid' (step _ _ _ _ _ _ _ _ hC (by omega) hext) hchain
      rw [expression] at h
      split at h
      · cases h
      · rename_i left mid hprimary
        exact hchain depth (Nat.le_refl _) left mid
          (start _ _ _ _ _ ((primary_ok.1 hprimary).imp (hwith depth (Nat.le_refl _)))) h

end JsonQuery.Grammar
