import JsonQuery.Eval

/-!
# Results of sequences of steps

* `Traced.result_bind_ok` — a sequence has a value if all its steps have one;
  `Traced.result_bind_congr` — its result depends on the results of the steps only.
* `Expr.evalArguments_cons` — how the arguments of a call are evaluated.
* `FailsBy` — every failure of a result has a property; sequences of steps keep it.
-/

namespace JsonQuery

variable {α β : Type} {H : Failure → Prop}

@[simp] theorem Traced.result_ofExcept (x : Except Failure α) : (Traced.ofExcept x).result = x := by
  cases x <;> rfl

theorem Traced.result_bind_ok {x : Traced α} {k : α → Traced β} {b : β} :
    (x >>= k).result = .ok b ↔ ∃ a, x.result = .ok a ∧ (k a).result = .ok b := by
  rw [Traced.result_bind]
  constructor
  · intro h
    cases hx : x.result with
    | error f =>
      rw [hx] at h
      cases h
    | ok a =>
      rw [hx] at h
      exact ⟨a, rfl, h⟩
  · rintro ⟨a, hx, hk⟩
    rw [hx]
    exact hk

theorem Traced.result_bind_congr {x y : Traced α} {k l : α → Traced β} (hx : x.result = y.result)
    (hk : ∀ a, (k a).result = (l a).result) : (x >>= k).result = (y >>= l).result := by
  rw [Traced.result_bind, Traced.result_bind, hx]
  exact bind_congr hk

theorem Traced.result_bind_assoc {γ : Type} (x : Traced α) (k : α → Traced β) (l : β → Traced γ) :
    ((x >>= k) >>= l).result = (x >>= fun a => k a >>= l).result := by
  simp only [Traced.result_bind]
  exact bind_assoc _ _ _

/-- What is done with the arguments of a call, one after another: a reference is handed over, any
other expression is evaluated. -/
theorem Expr.evalArguments_cons {r : Registry} (e : Expr) (rest : List Expr) (v : Json) :
    (∃ body, e = .reference body ∧ evalArguments r (e :: rest) v =
      evalArguments r rest v >>= fun xs => pure (.reference body (body.eval r) :: xs)) ∨
    ((∀ body, e ≠ .reference body) ∧ evalArguments r (e :: rest) v =
      e.eval r v >>= fun x => evalArguments r rest v >>= fun xs => pure (.value x :: xs)) := by
  cases e with
  | reference body => exact .inl ⟨body, rfl, by rw [evalArguments]⟩
  | _ => exact .inr ⟨nofun, by rw [evalArguments]; nofun⟩

/-- Every failure of a result has a property. -/
def FailsBy (H : Failure → Prop) (x : Except Failure α) : Prop := ∀ f, x = .error f → H f

namespace FailsBy

theorem ok (a : α) : FailsBy H (.ok a) := nofun

theorem error {f : Failure} (h : H f) : FailsBy H (.error f : Except Failure α) := by
  intro g hg
  cases hg
  exact h

theorem bind {x : Except Failure α} {k : α → Except Failure β} (hx : FailsBy H x)
    (hk : ∀ a, x = .ok a → FailsBy H (k a)) : FailsBy H (x >>= k) := by
  cases x with
  | error f => exact error (hx f rfl)
  | ok a => exact hk a rfl

theorem traced_bind {x : Traced α} {k : α → Traced β} (hx : FailsBy H x.result)
    (hk : ∀ a, x.result = .ok a → FailsBy H (k a).result) : FailsBy H (x >>= k).result := by
  rw [Traced.result_bind]
  exact hx.bind hk

theorem ofExcept {x : Except Failure α} (hx : FailsBy H x) :
    FailsBy H (Traced.ofExcept x).result := by
  rw [Traced.result_ofExcept]
  exact hx

theorem mapM {k : α → Except Failure β} (hk : ∀ a, FailsBy H (k a)) (as : List α) :
    FailsBy H (as.mapM k) := by
  induction as with
  | nil => exact ok []
  | cons a rest ih =>
    rw [List.mapM_cons]
    exact (hk a).bind fun b _ => ih.bind fun bs _ => ok (b :: bs)

end FailsBy

end JsonQuery
