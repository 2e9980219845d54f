import JsonQuery.Proofs.Engine
import JsonQuery.Proofs.Eval.Related
import JsonQuery.Proofs.Grammar.UpTo
import JsonQuery.Proofs.Library.References

/-!
# Queries do not notice the payload functions

* `Registry.find?_foldl_of_unnamed` — functions under other names do not change a look-up.
* `Library.find?_extensions` — a function that is known without the payload functions is the same one
  with them.
* `Expr.eval_extensions` — an expression that was read without them has the same result with them.
* `Engine.compile_extensions` — so has a query, and a text with another fault than an unknown function
  has the same fault.
-/

namespace JsonQuery

/-- Functions under other names do not change a look-up. -/
theorem Registry.find?_foldl_of_unnamed {fs : List Function} {n : String}
    (h : ∀ f ∈ fs, n ∉ f.name :: f.aliases) (r : Registry) :
    (fs.foldl register r).find? n = r.find? n := by
  induction fs generalizing r with
  | nil => rfl
  | cons f rest ih =>
    rw [List.foldl_cons, ih (fun g hg => h g (List.mem_cons_of_mem _ hg)), find?_register,
      if_neg (h f List.mem_cons_self)]

namespace Library

variable {reasons : Reasons}

/-- The functions that are known without the payload functions. -/
def basics : List Function := math ++ strings ++ arrays ++ objects

/-- No payload function has a name or a second name of another function. -/
theorem payloads_unnamed : ∀ f ∈ basics, ∀ n ∈ f.name :: f.aliases, ∀ g ∈ payloads reasons,
    n ∉ g.name :: g.aliases := by
  -- the names do not depend on the reasons
  have hnames : ∀ f ∈ basics, ∀ n ∈ f.name :: f.aliases,
      ∀ names ∈ (payloads .plain).map fun g => g.name :: g.aliases, n ∉ names := by decide
  have hsame : ((payloads reasons).map fun g => g.name :: g.aliases) =
      (payloads .plain).map fun g => g.name :: g.aliases := rfl
  intro f hf n hn g hg
  exact hnames f hf n hn _ (hsame ▸ List.mem_map_of_mem hg)

/-- A function that is known without the payload functions is the same one with them. -/
theorem find?_extensions {n : String} {f : Function} (h : (functions reasons false).find? n = some f) :
    (functions reasons true).find? n = some f := by
  have hfalse : functions reasons false = .ofList basics := by
    simp [functions, basics]
  have htrue : functions reasons true = (payloads reasons).foldl Registry.register (.ofList basics) := by
    simp [functions, basics, Registry.ofList, List.foldl_append]
  rw [hfalse] at h
  obtain ⟨hmem, hname⟩ := Registry.find?_ofList h
  rw [htrue, Registry.find?_foldl_of_unnamed (payloads_unnamed f hmem n hname), h]

/-- With the payload functions more names are known, and no other arity of a name. -/
theorem moreNames_extensions (reasons : Reasons) :
    Grammar.MoreNames (fun cause => ∃ name, cause = .unknownFunction name)
      (functions reasons false).arity? (functions reasons true).arity? := by
  intro name
  unfold Registry.arity?
  cases h : (functions reasons false).find? name with
  | none => exact .inr ⟨rfl, name, rfl⟩
  | some f => exact .inl (by rw [find?_extensions h])

end Library

/-- An expression whose calls are known without the payload functions has the same result with them. -/
theorem Expr.eval_extensions {reasons : Reasons} {e : Expr}
    (h : e.All (Expr.Checked (Library.functions reasons false).arity?)) (v : Json) :
    (e.eval (Library.functions reasons true) v).result =
      (e.eval (Library.functions reasons false) v).result := by
  have hrelated : Related .equality (Library.functions reasons false) (Library.functions reasons true) e e := by
    refine related_self fun name args hcall => ?_
    obtain ⟨arity, harity, -⟩ := h _ hcall
    obtain ⟨f, hf, -⟩ := Option.map_eq_some_iff.1 harity
    rw [hf, Library.find?_extensions hf]
    exact .some ⟨rfl, Library.functions_related reasons false hf⟩
  exact (hrelated.eval v).symm

/-- **The payload functions are a conservative extension.**  A text that is a query without them is one
with them: the expression is the same, and so is the result of every search.  A text that is refused
without them, for anything but an unknown function, is refused with them for the same reason at the
same place. -/
theorem Engine.compile_extensions (reasons : Reasons) (limit : Nat) (source : String) :
    (∀ q, (Engine.ofOptions reasons ⟨false, limit⟩).compile source = .ok q →
      ∃ q', (Engine.ofOptions reasons ⟨true, limit⟩).compile source = .ok q' ∧ q'.expr = q.expr ∧
        ∀ document, (q'.search document).result = (q.search document).result) ∧
    ∀ error, (Engine.ofOptions reasons ⟨false, limit⟩).compile source = .error error →
      (∀ name, error.cause ≠ .unknownFunction name) →
      (Engine.ofOptions reasons ⟨true, limit⟩).compile source = .error error := by
  have hsame := Expr.parse_upTo (Library.moreNames_extensions reasons) (.refl limit limit) source
  constructor
  · intro q hq
    have hchecked := Query.checked_of_compile hq
    obtain ⟨e, hparse, rfl⟩ := Engine.compile_ok.1 hq
    have hparse' : Expr.parse (Library.functions reasons true).arity? limit source = .ok e := by
      rcases hsame with hsame | ⟨error, herror, -⟩
      · rw [← hsame]
        exact hparse
      · cases hparse.symm.trans herror
    exact ⟨_, Engine.compile_ok.2 ⟨e, hparse', rfl⟩, rfl,
      fun document => Traced.absorb_congr (Expr.eval_extensions hchecked document)⟩
  · intro error herror hcause
    rw [Engine.compile_error] at herror ⊢
    rcases hsame with hsame | ⟨error', herror', name, hname⟩
    · exact hsame ▸ herror
    · cases herror.symm.trans herror'
      exact absurd hname (hcause name)

end JsonQuery
