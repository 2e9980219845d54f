import JsonQuery.Expr.Grammar
import JsonQuery.Proofs.Token.Scanning

/-!
# Expressions of texts

* `Grammar.whole_ok` — tokens make up an expression if it is read and none is left.
* `Expr.parse_ok` — a text has an expression if its tokens make up one, wherever they stand.
-/

namespace JsonQuery

/-- Tokens make up an expression if it is read from them and none is left. -/
theorem Grammar.whole_ok {arity? : String → Option Arity} {limit : Nat} {ts : List Token} {e : Expr} :
    Grammar.whole arity? limit ts = .ok e ↔
      Grammar.expression arity? limit limit 0 ts = .ok (e, []) := by
  unfold Grammar.whole
  constructor
  · intro h
    split at h
    · cases h
    · cases h
      assumption
    · cases h
  · intro h
    simp only [h]

/-- A text has an expression if its tokens make up one, wherever they stand. -/
theorem Expr.parse_ok {arity? : String → Option Arity} {limit : Nat} {text : String} {e : Expr} :
    Expr.parse arity? limit text = .ok e ↔ ∃ ts, Scans text.toList ts ∧
      Grammar.expression arity? limit limit 0 ts = .ok (e, []) := by
  unfold Expr.parse
  constructor
  · intro h
    split at h
    · cases h
    · rename_i row hrow
      split at h
      · cases h
      · rename_i hwhole
        cases h
        exact ⟨row.tokens, Scans.ofText.1 ⟨row, hrow, rfl⟩, Grammar.whole_ok.1 hwhole⟩
  · rintro ⟨ts, hts, h⟩
    obtain ⟨row, hrow, rfl⟩ := Scans.ofText.2 hts
    simp only [hrow, Grammar.whole_ok.2 h]

end JsonQuery
