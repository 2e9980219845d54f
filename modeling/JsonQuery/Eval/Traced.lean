import JsonQuery.Eval.Failure

/-!
# Evaluations that leave notes

* `Note` — what is worth telling about a search.
* `Traced` — a result or a failure, with the notes taken on the way; notes survive a failure.
* `Traced.result_bind`, `Traced.notes_bind` — the two parts of a sequence of evaluations.
-/

namespace JsonQuery

/-- What is worth telling about a search. -/
inductive Note where
  | compiled (source : String)
  | absorbed (function : String) (failure : Failure)
  | collapsed (source : String) (failure : Failure)

/-- A result or a failure, and the notes taken on the way. -/
structure Traced (α : Type) where
  result : Except Failure α
  notes : List Note

namespace Traced

variable {α β : Type}

/-- A value without notes. -/
def ok (a : α) : Traced α := ⟨.ok a, []⟩

/-- A failure without notes. -/
def fail (e : Failure) : Traced α := ⟨.error e, []⟩

/-- One evaluation after another. -/
def andThen (x : Traced α) (f : α → Traced β) : Traced β :=
  match x.result with
  | .ok a => ⟨(f a).result, x.notes ++ (f a).notes⟩
  | .error e => ⟨.error e, x.notes⟩

instance : Monad Traced where
  pure := ok
  bind := andThen

@[simp] theorem result_pure (a : α) : (pure a : Traced α).result = .ok a := rfl

@[simp] theorem result_ok (a : α) : (ok a).result = .ok a := rfl

@[simp] theorem result_fail (e : Failure) : (fail e : Traced α).result = .error e := rfl

/-- The result of a sequence does not depend on notes. -/
theorem result_bind (x : Traced α) (f : α → Traced β) :
    (x >>= f).result = x.result >>= fun a => (f a).result := by
  cases x with
  | mk result notes => cases result <;> rfl

/-- The notes of a sequence are those of its parts, in order. -/
theorem notes_bind (x : Traced α) (f : α → Traced β) :
    (x >>= f).notes = x.notes ++ (match x.result with
      | .ok a => (f a).notes
      | .error _ => []) := by
  cases x with
  | mk result notes => cases result <;> simp [bind, andThen]

/-- A value or a failure as an evaluation without notes. -/
def ofExcept : Except Failure α → Traced α
  | .ok a => ok a
  | .error e => fail e

/-- Turns a soft failure into `a` and notes it. -/
def absorb (a : α) (note : Failure → Note) (x : Traced α) : Traced α :=
  match x.result with
  | .ok b => ⟨.ok b, x.notes⟩
  | .error e => if e.isHard then x else ⟨.ok a, x.notes ++ [note e]⟩

end Traced

end JsonQuery
