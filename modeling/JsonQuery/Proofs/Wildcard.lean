import Mathlib
import JsonQuery.Proofs.Engine
import JsonQuery.Proofs.Grammar.Exchange
import JsonQuery.Proofs.Grammar.Text

/-!
# `[*]` and the filter that is always true

* `Engine.extended` — the engine with the built-in functions and further ones.
* `Query.search_always` — a filter that is always true in place of `[*]` gives the same results, where
  both are steps of the same chain.
-/

namespace JsonQuery

/-- The engine with these options, the built-in functions and further ones. -/
def Engine.extended (reasons : Reasons) (options : Options) (fs : List Function) : Engine :=
  fs.foldl Engine.register (Engine.ofOptions reasons options)

variable {reasons : Reasons} {options : Options} {fs : List Function} {cs : List Char} {post : List Token}

theorem Engine.extended_registry :
    (Engine.extended reasons options fs).registry =
      fs.foldl Registry.register (Library.functions reasons options.extensions) := by
  unfold Engine.extended
  change _ = fs.foldl Registry.register (Engine.ofOptions reasons options).registry
  generalize Engine.ofOptions reasons options = e
  induction fs generalizing e with
  | nil => rfl
  | cons f fs ih => exact ih (e.register f)

theorem Engine.extended_respects (hfs : ∀ f ∈ fs, f.body.Respects) :
    (Engine.extended reasons options fs).registry.Respects := by
  intro name fn hfind
  rw [Engine.extended_registry] at hfind
  rcases Registry.find?_foldl hfind with ⟨hmem, _⟩ | hfind
  · exact hfs fn hmem
  · exact Library.functions_respects reasons options.extensions name fn hfind

/-! ## Tokens of the two texts -/

theorem Scans.wildcard (h : Scans cs post) :
    Scans ("[*]".toList ++ cs) (Grammar.wildcard post) :=
  .token rfl rfl (.token rfl rfl (.token rfl rfl h))

theorem Scans.always (h : Scans cs post) :
    Scans ("[?`true`]".toList ++ cs) (Grammar.always post) := by
  have hjson : Json.read? (Text.trim ['t', 'r', 'u', 'e']) = some (.bool true) := by cbv
  have hliteral : Token.scan '`' ("true`]".toList ++ cs) = .ok (.literal (.bool true), 5) := by
    simp [Token.scan, Token.scanLiteral, hjson]
  exact .token rfl rfl (.token rfl hliteral (.token rfl rfl h))

/-! ## Searches -/

/-- Expressions with the same results are searched with the same results. -/
theorem Query.search_congr {source source' : String} {e e' : Expr} {r : Registry} (h : e.Alike r e')
    (document : Json) :
    ((Query.mk source e r).search document).result = ((Query.mk source' e' r).search document).result :=
  Traced.absorb_congr (h.eval document)

/-- **The filter that is always true in place of `[*]`.**  A text with `[*]` as the projection of a list
is compiled with the filter in its place too, within all large enough allowances of nesting, and every
search has the same result, unless the filter in its place would end the operand of a `!` or the right
side of a filter, or another filter its own right side. -/
theorem Query.search_always (reasons : Reasons) (options : Options) (fs : List Function) (hfs : ∀ f ∈ fs, f.body.Respects)
    {a b : String} {pre post : List Token} {q : Query}
    (h : (Engine.extended reasons options fs).compile (a ++ "[*]" ++ b) = .ok q)
    (ha : Scans a.toList pre) (hb : Scans b.toList post)
    (hplace : Grammar.Exchangeable (Engine.extended reasons options fs).registry.arity? pre post) :
    ∃ bound, ∀ limit ≥ bound, ∃ q',
      ((Engine.extended reasons options fs).within limit).compile (a ++ "[?`true`]" ++ b) = .ok q' ∧
        ∀ document, (q'.search document).result = (q.search document).result := by
  have hrespects : (Engine.extended reasons options fs).registry.Respects := Engine.extended_respects hfs
  obtain ⟨e, hparse, rfl⟩ := Engine.compile_ok.1 h
  obtain ⟨ts, hts, hread⟩ := Expr.parse_ok.1 hparse
  have hsource : ts = pre ++ Grammar.wildcard post := by
    refine hts.functional ?_
    rw [String.toList_append, String.toList_append, List.append_assoc]
    exact ha.append rfl hb.wildcard
  subst hsource
  have htarget : Scans (a ++ "[?`true`]" ++ b).toList (pre ++ Grammar.always post) := by
    rw [String.toList_append, String.toList_append, List.append_assoc]
    exact ha.append rfl hb.always
  obtain ⟨e', hread', he⟩ := Grammar.Reads.exchange_whole hrespects hplace ⟨_, _, hread⟩
  obtain ⟨bound, hbound⟩ := hread'.within
  refine ⟨bound, fun limit hle =>
    ⟨⟨a ++ "[?`true`]" ++ b, e', (Engine.extended reasons options fs).registry⟩, ?_, fun document => ?_⟩⟩
  · exact Engine.compile_ok.2 ⟨e', Expr.parse_ok.2 ⟨_, htarget, hbound limit hle limit⟩, rfl⟩
  · exact (Query.search_congr he document).symm

/-- The members `b` of the elements of `a`, whether `a` is projected by `[*]` or filtered. -/
theorem Query.search_member_always : ∃ q bound, (Engine.standard .plain).compile "a[*].b" = .ok q ∧
    ∀ limit ≥ bound, ∃ q', ((Engine.standard .plain).within limit).compile "a[?`true`].b" = .ok q' ∧
      ∀ document, (q'.search document).result = (q.search document).result := by
  have hcompile : (Engine.standard .plain).compile "a[*].b" =
      .ok ⟨"a[*].b", .project .list (.identifier "a") (.identifier "b"), Library.functions .plain true⟩ := by
    cbv
  have ha : Scans "a".toList [.identifier "a"] := Scans.ofText.1 ⟨_, by cbv, rfl⟩
  have hb : Scans ".b".toList [.dot, .identifier "b"] := Scans.ofText.1 ⟨_, by cbv, rfl⟩
  have hplace : Grammar.Exchangeable (Library.functions .plain true).arity? [.identifier "a"] [.dot, .identifier "b"] :=
    .of_plain (by simp [List.suffix_cons_iff]) (by simp) (by simp) (by simp)
  have htext : "a[*].b" = "a" ++ "[*]" ++ ".b" := by decide
  have htext' : "a[?`true`].b" = "a" ++ "[?`true`]" ++ ".b" := by decide
  rw [htext] at hcompile
  obtain ⟨bound, h⟩ := Query.search_always .plain .standard [] (by simp) hcompile ha hb hplace
  rw [htext, htext']
  exact ⟨_, bound, hcompile, h⟩

/-- **Where the two differ.**  `!` takes `[*]` as a step of its operand, but a filter as a step of its own
result; and the right side of a filter ends in front of another filter. -/
theorem Query.search_always_differs :
    (((Engine.standard .plain).search "!a[*]" (.object [("a", .array [])])).map Traced.result =
        .ok (.ok (.bool true)) ∧
      ((Engine.standard .plain).search "!a[?`true`]" (.object [("a", .array [])])).map Traced.result =
        .ok (.ok .null)) ∧
    (((Engine.standard .plain).search "[?a].b[*]" (.array [.object [("a", .bool true), ("b", .bool true)]])).map
        Traced.result = .ok (.ok (.array [])) ∧
      ((Engine.standard .plain).search "[?a].b[?`true`]"
        (.array [.object [("a", .bool true), ("b", .bool true)]])).map Traced.result =
        .ok (.ok (.array [.bool true]))) ∧
    (((Engine.standard .plain).search "[*].a[?b]" (.array [.object [("a", .array [.object [("b", .bool true)]])]])).map
        Traced.result = .ok (.ok (.array [.array [.object [("b", .bool true)]]])) ∧
      ((Engine.standard .plain).search "[?`true`].a[?b]"
        (.array [.object [("a", .array [.object [("b", .bool true)]])]])).map Traced.result =
        .ok (.ok (.array []))) := by
  refine ⟨⟨?_, ?_⟩, ⟨?_, ?_⟩, ⟨?_, ?_⟩⟩
  all_goals cbv

end JsonQuery
