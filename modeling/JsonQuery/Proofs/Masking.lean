import JsonQuery.Proofs.Eval.Related
import JsonQuery.Proofs.Library.References
import Mathlib

/-!
# Hard failures are not masked

* `Registry.related_register` — registries with related functions stay so when related functions are
  registered under the same names.
* `Expr.eval_unmasked` — where a function always fails hard, either the evaluation fails in this way, or
  its result does not depend on what the function does.
-/

namespace JsonQuery

variable {Q : Congruence}

/-- Registries with related functions stay so when related functions are registered under the same
names. -/
theorem Registry.related_register {r r' : Registry} {f f' : Function} (hf : Function.Related Q f f')
    (hname : f.name = f'.name) (haliases : f.aliases = f'.aliases)
    (hr : ∀ n, Option.Rel (Function.Related Q) (r.find? n) (r'.find? n)) (n : String) :
    Option.Rel (Function.Related Q) ((r.register f).find? n) ((r'.register f').find? n) := by
  rw [find?_register, find?_register, hname, haliases]
  split
  · exact .some hf
  · exact hr n

/-- The built-in functions are related to themselves. -/
theorem Library.functions_rel (reasons : Reasons) (extensions : Bool) (n : String) : Option.Rel (Function.Related Q)
    ((functions reasons extensions).find? n) ((functions reasons extensions).find? n) := by
  cases hfind : (functions reasons extensions).find? n with
  | none => exact .none
  | some f => exact .some ⟨rfl, functions_related reasons extensions hfind⟩

/-- **A hard failure is not masked.**  Of two registries with the built-in functions and one more, which
differ in the body of that function only, let the function always fail hard with `h` in the first.
Whatever evaluates to anything but this failure there, also to one of its kind for another reason, has the
same result with the second registry, so no node and no function turns the failure into a value or into
another failure. -/
theorem Expr.eval_unmasked (reasons : Reasons) (extensions : Bool) (f : Function) (other : Body) {h : Failure}
    (hhard : h.isHard = true) (hfails : ∀ args, (f.body args).result = .error h) (e : Expr) (v : Json)
    (hresult : (e.eval ((Library.functions reasons extensions).register f) v).result ≠ .error h) :
    (e.eval ((Library.functions reasons extensions).register { f with body := other }) v).result =
      (e.eval ((Library.functions reasons extensions).register f) v).result := by
  have hrelated : Function.Related (.unlessFails h hhard) f { f with body := other } :=
    ⟨rfl, fun args _ _ => .inl (hfails args)⟩
  have hregistry := Registry.related_register hrelated rfl rfl (Library.functions_rel reasons extensions)
  rcases (related_self (e := e) fun name _ _ => hregistry name).eval v with hfailed | hsame
  · exact absurd hfailed hresult
  · exact hsame.symm

/-- A function that always fails stands behind a filter, a map of no items and an alternative, and none of them gets
to it; and it stands behind a text that is no JSON, which is the same kind of failure for another reason. -/
theorem Expr.eval_unmasked_of_skipped :
    let reasons : Reasons := { Reasons.plain with json := fun _ => "EOF while parsing a list at line 1 column 1" }
    let refuse : Function := ⟨"refuse", [], .fixed 1, fun _ => .fail (.badJson "refused")⟩
    let first := (Library.functions reasons true).register refuse
    let second := (Library.functions reasons true).register { refuse with body := fun _ => pure .null }
    let skipped : Expr := .binary .or
      (.filter (.identifier "b") (.identifier "a") (.call "refuse" [.current]))
      (.binary .or (.call "map" [.reference (.call "refuse" [.current]), .identifier "c"])
        (.identifier "d"))
    let late : Expr := .multiList [.call "json" [.literal (.string "[")], .call "refuse" [.current]]
    let v : Json := .object [("a", .array [.object [("b", .bool false)]]), ("c", .array []),
      ("d", .string "e")]
    ((skipped.eval first v).result = .ok (.string "e") ∧
      (skipped.eval second v).result = (skipped.eval first v).result) ∧
    (late.eval first v).result = .error (.badJson "EOF while parsing a list at line 1 column 1") ∧
      (late.eval second v).result = (late.eval first v).result := by
  intro reasons refuse first second skipped late v
  have hskipped : (skipped.eval first v).result = .ok (.string "e") := by cbv
  have hlate : (late.eval first v).result =
      .error (.badJson "EOF while parsing a list at line 1 column 1") := by cbv
  refine ⟨⟨hskipped, Expr.eval_unmasked reasons true refuse _ (h := .badJson "refused") rfl (fun _ => rfl) skipped v ?_⟩,
    hlate, Expr.eval_unmasked reasons true refuse _ (h := .badJson "refused") rfl (fun _ => rfl) late v ?_⟩
  · rw [hskipped]
    simp
  · rw [hlate]
    simp

end JsonQuery
