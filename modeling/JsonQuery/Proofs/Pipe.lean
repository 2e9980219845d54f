import JsonQuery.Proofs.Engine
import JsonQuery.Proofs.Grammar.Pipes
import JsonQuery.Proofs.Grammar.Text
import Mathlib

/-!
# A query piped into another

* `Scans.piped` — the tokens of a text in parentheses, a pipe and a second text.
* `Engine.compile_piped` — such a text is a query that composes the queries of its two parts.
-/

namespace JsonQuery

/-- The tokens of a text in parentheses, a pipe and a second text. -/
theorem Scans.piped {s t : String} {ss ts : List Token} (hs : Scans s.toList ss)
    (ht : Scans t.toList ts) :
    Scans ("(" ++ s ++ ") | " ++ t).toList (.openParen :: (ss ++ .closeParen :: .pipe :: ts)) := by
  have hpipe : Scans (" | ".toList ++ t.toList) (.pipe :: ts) :=
    .blank rfl (.token rfl rfl (.blank rfl ht))
  have htext : ("(" ++ s ++ ") | " ++ t).toList = '(' :: (s.toList ++ ')' :: (" | ".toList ++ t.toList)) := by
    simp only [String.toList_append, List.append_assoc]
    rfl
  rw [htext]
  exact hs.group hpipe

/-- **A pipe composes queries.**  Two texts that are compiled are compiled with a pipe between them, the
first one in parentheses, within two more levels of nesting.  The result is a failure of the first
query, or else the result of the second one on the value of the first. -/
theorem Engine.compile_piped {e : Engine} {s t : String} {p q : Query} (hs : e.compile s = .ok p)
    (ht : e.compile t = .ok q) {limit : Nat} (hlimit : e.options.maxDepth + 2 ≤ limit) :
    ∃ c, (e.within limit).compile ("(" ++ s ++ ") | " ++ t) = .ok c ∧
      ∀ document, (c.expr.eval c.registry document).result =
        match (p.expr.eval p.registry document).result with
        | .ok v => (q.expr.eval q.registry v).result
        | .error failure => .error failure := by
  obtain ⟨a, ha, rfl⟩ := Engine.compile_ok.1 hs
  obtain ⟨b, hb, rfl⟩ := Engine.compile_ok.1 ht
  obtain ⟨ss, hss, hreada⟩ := Expr.parse_ok.1 ha
  obtain ⟨ts, hts, hreadb⟩ := Expr.parse_ok.1 hb
  obtain ⟨c, hreadc, hcomposes⟩ := Grammar.expression_piped hreada hreadb hlimit
  refine ⟨⟨_, c, e.registry⟩, Engine.compile_ok.2 ⟨c, Expr.parse_ok.2 ⟨_, hss.piped hts, hreadc⟩, rfl⟩, ?_⟩
  intro document
  rw [hcomposes]
  cases (a.eval e.registry document).result <;> rfl

/-- A projection and an alternative in front of the pipe, and a further pipe behind it. -/
theorem Engine.compile_piped_first : ∃ p q c, (Engine.standard .plain).compile "a[*].b || c" = .ok p ∧
    (Engine.standard .plain).compile "[0] | d" = .ok q ∧
    ((Engine.standard .plain).within 258).compile "(a[*].b || c) | [0] | d" = .ok c ∧
      ∀ document, (c.expr.eval c.registry document).result =
        match (p.expr.eval p.registry document).result with
        | .ok v => (q.expr.eval q.registry v).result
        | .error failure => .error failure := by
  have hs : (Engine.standard .plain).compile "a[*].b || c" = .ok ⟨"a[*].b || c",
      .binary .or (.project .list (.identifier "a") (.identifier "b")) (.identifier "c"),
      Library.functions .plain true⟩ := by cbv
  have ht : (Engine.standard .plain).compile "[0] | d" =
      .ok ⟨"[0] | d", .pipe (.index 0) (.identifier "d"), Library.functions .plain true⟩ := by cbv
  have htext : "(a[*].b || c) | [0] | d" = "(" ++ "a[*].b || c" ++ ") | " ++ "[0] | d" := by decide
  obtain ⟨c, hc, heval⟩ := Engine.compile_piped hs ht (Nat.le_refl 258)
  rw [← htext] at hc
  exact ⟨_, _, c, hs, ht, hc, heval⟩

end JsonQuery
