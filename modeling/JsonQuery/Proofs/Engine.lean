import JsonQuery.Engine
import JsonQuery.Proofs.Grammar.Checked

/-!
# Compiled queries

* `Engine.compile_ok`, `compile_error` — a query is compiled if its text is read, and it keeps the
  functions; else it is refused for what is wrong with the text.
* `Engine.within` — an engine with another allowance of nesting.
* `Query.search_ok` — a search has a value unless the evaluation fails hard.
-/

namespace JsonQuery

theorem Engine.compile_ok {e : Engine} {source : String} {q : Query} :
    e.compile source = .ok q ↔ ∃ expr,
      Expr.parse e.registry.arity? e.options.maxDepth source = .ok expr ∧
        q = ⟨source, expr, e.registry⟩ := by
  unfold Engine.compile
  constructor
  · intro h
    split at h
    · rename_i expr hparse
      cases h
      exact ⟨expr, hparse, rfl⟩
    · cases h
  · rintro ⟨expr, hparse, rfl⟩
    rw [hparse]

/-- A text is refused for what is wrong with it. -/
theorem Engine.compile_error {e : Engine} {source : String} {error : ParseError} :
    e.compile source = .error error ↔
      Expr.parse e.registry.arity? e.options.maxDepth source = .error error := by
  unfold Engine.compile
  cases Expr.parse e.registry.arity? e.options.maxDepth source <;> simp

/-- An engine with this allowance of nesting in place of its own. -/
def Engine.within (e : Engine) (limit : Nat) : Engine :=
  { e with options := { e.options with maxDepth := limit } }

/-- Every node of a compiled query has been checked against the functions that it keeps. -/
theorem Query.checked_of_compile {e : Engine} {source : String} {q : Query}
    (h : e.compile source = .ok q) : q.expr.All (Expr.Checked q.registry.arity?) := by
  obtain ⟨expr, hparse, rfl⟩ := Engine.compile_ok.1 h
  exact Expr.checked_of_parse hparse

/-- A search has a value unless the evaluation fails hard. -/
theorem Query.search_ok {q : Query} {document : Json}
    (h : ∀ f, (q.expr.eval q.registry document).result = .error f → f.isHard = false) :
    ∃ v, (q.search document).result = .ok v := by
  unfold Query.search Traced.absorb
  split
  · exact ⟨_, rfl⟩
  · rename_i f hresult
    rw [if_neg (by simp [h f hresult])]
    exact ⟨_, rfl⟩

end JsonQuery
