import Mathlib
import JsonQuery.Proofs.Eval.Result

/-!
# Evaluations that may trap

A machine does not return from an evaluation that reaches behind the end of a list, or in which a sum
does not fit into a word.  Here such an evaluation ends in a trap.

* `Trapping` — an evaluation that may trap; `Trapping.ran_bind` — one that does not is a `Traced`.
* `Machine.word` — a number as a word of 64 bits; `Machine.access` — the item at a place.
* `Machine.pick` — the items at several places.
-/

namespace JsonQuery

variable {α β : Type}

theorem Traced.andThen_pure (x : Traced α) : x.andThen pure = x := by
  obtain ⟨result, notes⟩ := x
  cases result with
  | error f => rfl
  | ok a =>
    show (⟨.ok a, notes ++ []⟩ : Traced α) = ⟨.ok a, notes⟩
    rw [List.append_nil]

theorem Traced.andThen_assoc {γ : Type} (x : Traced α) (k : α → Traced β) (l : β → Traced γ) :
    (x.andThen k).andThen l = x.andThen fun a => (k a).andThen l := by
  obtain ⟨result, notes⟩ := x
  cases result with
  | error f => rfl
  | ok a =>
    simp only [andThen]
    cases (k a).result with
    | error f => rfl
    | ok b => simp only [List.append_assoc]

theorem Traced.ofExcept_bind (x : Except Failure α) (k : α → Except Failure β) :
    Traced.ofExcept (x >>= k) = Traced.ofExcept x >>= fun a => Traced.ofExcept (k a) := by
  cases x <;> rfl

instance : LawfulMonad Traced := .mk' _ Traced.andThen_pure (fun _ _ => rfl) Traced.andThen_assoc

/-- An evaluation that may trap. -/
inductive Trapping (α : Type) where
  | trap
  | ran (outcome : Traced α)

namespace Trapping

/-- One evaluation after another; a trap in either is a trap. -/
def andThen : Trapping α → (α → Trapping β) → Trapping β
  | trap, _ => trap
  | ran x, k =>
    match x.result with
    | .error f => ran ⟨.error f, x.notes⟩
    | .ok a =>
      match k a with
      | trap => trap
      | ran y => ran ⟨y.result, x.notes ++ y.notes⟩

instance : Monad Trapping where
  pure a := ran (pure a)
  bind := andThen

/-- A value, if there is one; else a trap. -/
def ofOption : Option α → Trapping α
  | some a => pure a
  | none => trap

/-- A value or a failure. -/
def ofExcept (x : Except Failure α) : Trapping α := ran (.ofExcept x)

/-- Turns a soft failure into `a` and notes it. -/
def absorb (a : α) (note : Failure → Note) : Trapping α → Trapping α
  | trap => trap
  | ran x => ran (x.absorb a note)

/-- What is behind an evaluation runs if it does so on every value. -/
theorem ran_bind {x : Traced α} {k : α → Trapping β} {l : α → Traced β}
    (h : ∀ a, x.result = .ok a → k a = ran (l a)) : (ran x >>= k) = ran (x >>= l) := by
  obtain ⟨result, notes⟩ := x
  cases result with
  | error f => rfl
  | ok a =>
    show andThen (ran ⟨.ok a, notes⟩) k = _
    simp only [andThen, h a rfl]
    rfl

theorem ran_seq (x : Traced α) (l : α → Traced β) :
    (ran x >>= fun a => ran (l a)) = ran (x >>= l) := ran_bind fun _ _ => rfl

theorem andThen_pure (x : Trapping α) : x.andThen pure = x := by
  cases x with
  | trap => rfl
  | ran x =>
    obtain ⟨result, notes⟩ := x
    cases result with
    | error f => rfl
    | ok a =>
      show ran ⟨.ok a, notes ++ []⟩ = ran ⟨.ok a, notes⟩
      rw [List.append_nil]

theorem pure_andThen (a : α) (k : α → Trapping β) : (ran (pure a)).andThen k = k a := by
  show (match k a with | trap => trap | ran y => ran ⟨y.result, [] ++ y.notes⟩) = k a
  cases k a <;> rfl

theorem andThen_assoc {γ : Type} (x : Trapping α) (k : α → Trapping β) (l : β → Trapping γ) :
    (x.andThen k).andThen l = x.andThen fun a => (k a).andThen l := by
  cases x with
  | trap => rfl
  | ran x =>
    obtain ⟨result, notes⟩ := x
    cases result with
    | error f => rfl
    | ok a =>
      simp only [andThen]
      cases k a with
      | trap => rfl
      | ran y =>
        obtain ⟨result, notes'⟩ := y
        cases result with
        | error f => rfl
        | ok b =>
          dsimp only
          cases l b with
          | trap => rfl
          | ran z => simp only [List.append_assoc]

instance : LawfulMonad Trapping := .mk' _ andThen_pure pure_andThen andThen_assoc

end Trapping

namespace Machine

open Trapping

/-- A number that fits into a word of 64 bits, if this one does. -/
def word? (z : Int) : Option Int := if -2 ^ 63 ≤ z ∧ z < 2 ^ 63 then some z else none

/-- The result of an operation on words; it traps if the word overflows. -/
def word (z : Int) : Trapping Int := ofOption (word? z)

/-- A word as a place in a list; there are no places below zero. -/
def place (z : Int) : Trapping Nat := if 0 ≤ z then pure z.toNat else trap

/-- The item at a place, which must be one of the list. -/
def access (items : List α) (i : Nat) : Trapping α := ofOption items[i]?

/-- The items at places. -/
def pick (items : List α) : List Nat → Trapping (List α)
  | [] => pure []
  | i :: rest => do
    let a ← access items i
    let as ← pick items rest
    pure (a :: as)

variable {z : Int} {items : List α} {i : Nat}

theorem word_eq (hlow : -2 ^ 63 ≤ z) (hhigh : z < 2 ^ 63) : word z = pure z := by
  rw [word, word?, if_pos ⟨hlow, hhigh⟩, ofOption]

theorem place_eq (h : 0 ≤ z) : place z = pure z.toNat := if_pos h

theorem access_eq {a : α} (h : items[i]? = some a) : access items i = pure a := by
  rw [access, h, ofOption]

/-- Items at places of the list are picked without a trap. -/
theorem pick_eq {places : List Nat} (h : ∀ i ∈ places, i < items.length) :
    pick items places = pure (places.filterMap (items[·]?)) := by
  induction places with
  | nil => rfl
  | cons i rest ih =>
    obtain ⟨a, hitem⟩ : ∃ a, items[i]? = some a :=
      ⟨_, List.getElem?_eq_getElem (h i List.mem_cons_self)⟩
    rw [pick, access_eq hitem, pure_bind, ih fun j hj => h j (List.mem_cons_of_mem _ hj), pure_bind,
      List.filterMap_cons, hitem]

end Machine

end JsonQuery
