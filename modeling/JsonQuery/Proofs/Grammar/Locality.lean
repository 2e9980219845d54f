import JsonQuery.Proofs.Grammar.Reads

/-!
# What a reading looks at

* `Local` — a reading takes some tokens and looks no further than at the power of the next one.
* `expression_local`, `Reads.local`, `Reaches.local` — readings of expressions do so, so the tokens that
  they take can be read in front of any token that binds no stronger, within the same allowance.
-/

namespace JsonQuery.Grammar

variable {arity? : String → Option Arity} {power : Nat} {ts mid rest : List Token}
  {e left lhs : Expr}

/-- A reading takes at least one token, and `item'` reads what it takes in front of any token that
binds no stronger than the next one. -/
def Local {α : Type} (item item' : List Token → α → List Token → Prop) : Prop :=
  ∀ {ts a rest}, item ts a rest → ∃ t pre, ts = t :: (pre ++ rest) ∧
    ∀ rest', Token.nextPower rest' ≤ Token.nextPower rest → item' (t :: (pre ++ rest')) a rest'

theorem openParen_of_nextPower {more : List Token}
    (h : Token.nextPower (.openParen :: more) ≤ Token.nextPower ts) :
    ∃ more', ts = .openParen :: more' := by
  rcases ts with _ | ⟨t, ts⟩
  · cases h
  · cases t <;> first | exact ⟨ts, rfl⟩ | exact absurd h (by simp [Token.nextPower, Token.power])

theorem startsBracket_of_append (body more rest : List Token) :
    startsBracket (body ++ .closeBracket :: rest) = startsBracket (body ++ .closeBracket :: more) := by
  rcases body with _ | ⟨a, _ | ⟨b, body⟩⟩
  · rfl
  · cases a <;> rfl
  · cases a <;> cases b <;> rfl

/-- A sequence is read up to its end, whatever stands behind it. -/
theorem Sequence.local {α : Type} {item item' : List Token → α → List Token → Prop}
    {close : Closing} {as : List α} (hitem : Local item item') (h : Sequence item close ts as rest) :
    ∃ t body, ts = t :: (body ++ close.token :: rest) ∧
      ∀ rest', Sequence item' close (t :: (body ++ close.token :: rest')) as rest' := by
  induction h with
  | @last ts a t rest h hclose =>
    have ht : t = close.token := by cases close <;> cases t <;> first | rfl | cases hclose
    subst ht
    obtain ⟨t, body, rfl, hread⟩ := hitem h
    exact ⟨t, body, rfl, fun rest' => .last (hread (_ :: rest') (Nat.le_refl _)) hclose⟩
  | @more ts a mid as rest h hlt _ ih =>
    obtain ⟨t, body, rfl, hread⟩ := hitem h
    obtain ⟨u, body', rfl, ih⟩ := ih
    refine ⟨t, body ++ .comma :: u :: body', by simp, fun rest' => ?_⟩
    have hmore := Sequence.more (hread (.comma :: u :: (body' ++ close.token :: rest')) (Nat.le_refl _))
      (by simp only [List.length_cons, List.length_append]; omega) (ih rest')
    simpa using hmore

section Parts

variable {S S' : Reading} (hS : ∀ power, Local (S power) (S' power))
include hS

theorem Named.local : Local (Named S) (Named S') := by
  intro ts p rest h
  cases h with
  | identifier h =>
    obtain ⟨t, pre, rfl, hread⟩ := hS 0 h
    exact ⟨_, .colon :: t :: pre, rfl, fun rest' hle => .identifier (hread rest' hle)⟩
  | quoted h =>
    obtain ⟨t, pre, rfl, hread⟩ := hS 0 h
    exact ⟨_, .colon :: t :: pre, rfl, fun rest' hle => .quoted (hread rest' hle)⟩

theorem AfterDot.local : Local (AfterDot S power) (AfterDot S' power) := by
  intro ts e rest h
  cases h with
  | list h =>
    obtain ⟨t, body, rfl, hread⟩ := h.local (hS 0)
    exact ⟨.openBracket, t :: (body ++ [.closeBracket]), by simp [Closing.token],
      fun rest' _ => by simpa [Closing.token] using AfterDot.list (hread rest')⟩
  | hash h =>
    obtain ⟨t, body, rfl, hread⟩ := h.local (Named.local hS)
    exact ⟨.openBrace, t :: (body ++ [.closeBrace]), by simp [Closing.token],
      fun rest' _ => by simpa [Closing.token] using AfterDot.hash (hread rest')⟩
  | @step t _ _ _ ht h =>
    obtain ⟨_, pre, heq, hread⟩ := hS power h
    cases heq
    exact ⟨t, pre, rfl, fun rest' hle => .step ht (hread rest' hle)⟩

theorem Projected.local (h : Projected S power ts e rest) : ∃ pre, ts = pre ++ rest ∧
    ∀ rest', Token.nextPower rest' ≤ Token.nextPower rest → Projected S' power (pre ++ rest') e rest' := by
  cases h with
  | none hstop => exact ⟨[], rfl, fun rest' hle => .none (Nat.lt_of_le_of_lt hle hstop)⟩
  | dot h =>
    obtain ⟨t, pre, rfl, hread⟩ := AfterDot.local hS h
    exact ⟨.dot :: t :: pre, rfl, fun rest' hle => .dot (hread rest' hle)⟩
  | bracket h =>
    obtain ⟨t, pre, heq, hread⟩ := hS power h
    cases heq
    exact ⟨.openBracket :: pre, rfl, fun rest' hle => .bracket (hread rest' hle)⟩
  | filter h =>
    obtain ⟨t, pre, heq, hread⟩ := hS power h
    cases heq
    exact ⟨.filter :: pre, rfl, fun rest' hle => .filter (hread rest' hle)⟩

theorem Bracketed.local (h : Bracketed S lhs ts e rest) : ∃ pre, ts = pre ++ rest ∧
    ∀ rest', Token.nextPower rest' ≤ Token.nextPower rest → Bracketed S' lhs (pre ++ rest') e rest' := by
  cases h with
  | index => exact ⟨[_, _], rfl, fun rest' _ => .index⟩
  | list h =>
    obtain ⟨pre, rfl, hread⟩ := h.local hS
    exact ⟨.star :: .closeBracket :: pre, rfl, fun rest' hle => .list (hread rest' hle)⟩
  | @slice start stop step _ rhs _ hzero h =>
    obtain ⟨pre, rfl, hread⟩ := h.local hS
    refine ⟨numberTokens start ++ .colon :: (numberTokens stop ++ (stepTokens step ++ .closeBracket :: pre)),
      by simp, fun rest' hle => ?_⟩
    have hslice := @Bracketed.slice S' lhs start stop step _ rhs rest' hzero (hread rest' hle)
    simpa using hslice

theorem Filtered.local (h : Filtered S lhs ts e rest) : ∃ pre, ts = pre ++ rest ∧
    ∀ rest', Token.nextPower rest' ≤ Token.nextPower rest → Filtered S' lhs (pre ++ rest') e rest' := by
  obtain ⟨hpredicate, hrhs⟩ := h
  obtain ⟨t, body, rfl, hread⟩ := hS 0 hpredicate
  obtain ⟨pre, rfl, hbehind⟩ := hrhs.local hS
  refine ⟨t :: (body ++ .closeBracket :: pre), by simp, fun rest' hle => ?_⟩
  have hpredicate := hread (.closeBracket :: (pre ++ rest')) (Nat.le_refl _)
  simpa using Filtered.mk hpredicate (hbehind rest' hle)

theorem Arguments.local {args : List Expr} (h : Arguments S ts args rest) :
    ∃ pre, ts = pre ++ rest ∧ ∀ rest', Arguments S' (pre ++ rest') args rest' := by
  cases h with
  | none => exact ⟨[.closeParen], rfl, fun rest' => .none⟩
  | some hparen h =>
    obtain ⟨t, body, rfl, hread⟩ := h.local (hS 0)
    refine ⟨t :: (body ++ [.closeParen]), by simp [Closing.token], fun rest' => ?_⟩
    have hread := Arguments.some (fun more hmore => ?_) (hread rest')
    · simpa [Closing.token] using hread
    · cases hmore
      exact hparen _ rfl

theorem Primary.local : Local (Primary arity? S) (Primary arity? S') := by
  intro ts e rest h
  cases h with
  | current => exact ⟨_, [], rfl, fun rest' _ => .current⟩
  | identifier hparen =>
    refine ⟨_, [], rfl, fun rest' hle => .identifier ?_⟩
    rintro more rfl
    obtain ⟨more', hmore⟩ := openParen_of_nextPower hle
    exact hparen more' hmore
  | call harity haccepts h =>
    obtain ⟨pre, rfl, hread⟩ := h.local hS
    exact ⟨_, .openParen :: pre, rfl, fun rest' _ => .call harity haccepts (hread rest')⟩
  | quoted hparen =>
    refine ⟨_, [], rfl, fun rest' hle => .quoted ?_⟩
    rintro more rfl
    obtain ⟨more', hmore⟩ := openParen_of_nextPower hle
    exact hparen more' hmore
  | raw => exact ⟨_, [], rfl, fun rest' _ => .raw⟩
  | literal => exact ⟨_, [], rfl, fun rest' _ => .literal⟩
  | values h =>
    obtain ⟨pre, rfl, hread⟩ := h.local hS
    exact ⟨_, pre, rfl, fun rest' hle => .values (hread rest' hle)⟩
  | bracketed h =>
    obtain ⟨pre, rfl, hread⟩ := h.local hS
    exact ⟨_, pre, rfl, fun rest' hle => .bracketed (hread rest' hle)⟩
  | multiList hbracket h =>
    obtain ⟨t, body, rfl, hread⟩ := h.local (hS 0)
    refine ⟨.openBracket, t :: (body ++ [.closeBracket]), by simp [Closing.token], fun rest' _ => ?_⟩
    have hstarts := (startsBracket_of_append (t :: body) rest rest').trans hbracket
    have hlist : Primary arity? S' _ _ _ := .multiList hstarts (hread rest')
    simpa [Closing.token] using hlist
  | flatten h =>
    obtain ⟨pre, rfl, hread⟩ := h.local hS
    exact ⟨_, pre, rfl, fun rest' hle => .flatten (hread rest' hle)⟩
  | filter h =>
    obtain ⟨pre, rfl, hread⟩ := h.local hS
    exact ⟨_, pre, rfl, fun rest' hle => .filter (hread rest' hle)⟩
  | multiHash h =>
    obtain ⟨t, body, rfl, hread⟩ := h.local (Named.local hS)
    refine ⟨.openBrace, t :: (body ++ [.closeBrace]), by simp [Closing.token], fun rest' _ => ?_⟩
    have hhash : Primary arity? S' _ _ _ := .multiHash (hread rest')
    simpa [Closing.token] using hhash
  | reference h =>
    obtain ⟨t, pre, rfl, hread⟩ := hS 0 h
    exact ⟨_, t :: pre, rfl, fun rest' hle => .reference (hread rest' hle)⟩
  | not h =>
    obtain ⟨t, pre, rfl, hread⟩ := hS _ h
    exact ⟨_, t :: pre, rfl, fun rest' hle => .not (hread rest' hle)⟩
  | group h =>
    obtain ⟨t, pre, rfl, hread⟩ := hS 0 h
    refine ⟨.openParen, t :: (pre ++ [.closeParen]), by simp, fun rest' _ => ?_⟩
    have hgroup : Primary arity? S' _ _ _ := .group (hread (.closeParen :: rest') (Nat.le_refl _))
    simpa using hgroup

theorem Extension.local : Local (fun ts e rest => Extension S left ts e rest)
    (fun ts e rest => Extension S' left ts e rest) := by
  intro ts e rest h
  cases h with
  | values h =>
    obtain ⟨pre, rfl, hread⟩ := h.local hS
    exact ⟨_, .star :: pre, rfl, fun rest' hle => .values (hread rest' hle)⟩
  | subexpr hstar h =>
    obtain ⟨t, pre, rfl, hread⟩ := AfterDot.local hS h
    refine ⟨_, t :: pre, rfl, fun rest' hle => .subexpr (fun more hmore => ?_) (hread rest' hle)⟩
    cases hmore
    exact hstar _ rfl
  | bracketed h =>
    obtain ⟨pre, rfl, hread⟩ := h.local hS
    exact ⟨_, pre, rfl, fun rest' hle => .bracketed (hread rest' hle)⟩
  | flatten h =>
    obtain ⟨pre, rfl, hread⟩ := h.local hS
    exact ⟨_, pre, rfl, fun rest' hle => .flatten (hread rest' hle)⟩
  | filter h =>
    obtain ⟨pre, rfl, hread⟩ := h.local hS
    exact ⟨_, pre, rfl, fun rest' hle => .filter (hread rest' hle)⟩
  | pipe h =>
    obtain ⟨t, pre, rfl, hread⟩ := hS _ h
    exact ⟨_, t :: pre, rfl, fun rest' hle => .pipe (hread rest' hle)⟩
  | resembles hregex => exact ⟨_, [_], rfl, fun rest' _ => .resembles hregex⟩
  | binary hop h =>
    obtain ⟨t, pre, rfl, hread⟩ := hS _ h
    exact ⟨_, t :: pre, rfl, fun rest' hle => .binary hop (hread rest' hle)⟩

end Parts

/-- A reading takes some tokens and looks no further than at the power of the next one; in front of
other tokens it takes the same allowance. -/
theorem expression_local {limit depth : Nat} :
    Local (readings (expression arity? limit depth) power) (readings (expression arity? limit depth) power) := by
  intro ts e rest h
  refine expression_induction
    (P := fun depth power ts e rest => ∃ t pre, ts = t :: (pre ++ rest) ∧ ∀ rest',
      Token.nextPower rest' ≤ Token.nextPower rest →
        expression arity? limit depth power (t :: (pre ++ rest')) = .ok (e, rest'))
    (C := fun depth n power ts left mid => ∃ t pre, ts = t :: (pre ++ mid) ∧ ∀ mid',
      Token.nextPower mid' ≤ Token.nextPower mid → ∀ r, chain arity? limit n power left mid' = .ok r →
        expression arity? limit (depth + 1) power (t :: (pre ++ mid')) = .ok r)
    ?start ?step ?stop _ _ _ _ _ h
  case start =>
    intro depth power ts left mid h
    obtain ⟨t, pre, rfl, hread⟩ :=
      @Primary.local arity? _ (readings (expression arity? limit depth)) (fun _ _ _ _ h => h.2) _ _ _ h
    exact ⟨t, pre, rfl, fun mid' hle r hchain => expression_succ (hread mid' hle) hchain⟩
  case step =>
    rintro depth n power ts left mid left' mid' ⟨t, pre, rfl, hC⟩ hpower h
    obtain ⟨u, pre', rfl, hread⟩ :=
      @Extension.local left _ (readings (expression arity? limit n)) (fun _ _ _ _ h => h.2) _ _ _ h
    refine ⟨t, pre ++ u :: pre', by simp, fun mid'' hle r hchain => ?_⟩
    have hstronger : power < Token.nextPower (u :: (pre' ++ mid'')) := hpower
    have hlink := hC (u :: (pre' ++ mid'')) (Nat.le_refl _) r
      ((chain_step hstronger (hread mid'' hle)).trans hchain)
    simpa using hlink
  case stop =>
    rintro depth n power ts e rest ⟨t, pre, rfl, hC⟩ hpower
    exact ⟨t, pre, rfl, fun rest' hle => hC rest' hle _ (chain_stop (Nat.le_trans hle hpower))⟩

/-- So does a reading within any allowance. -/
theorem Reads.local : Local (Reads arity? power) (Reads arity? power) := by
  rintro ts e rest ⟨limit, depth, h⟩
  obtain ⟨t, pre, rfl, hread⟩ := expression_local h
  exact ⟨t, pre, rfl, fun rest' hle => ⟨limit, depth, hread rest' hle⟩⟩

/-- So does a chain on its way. -/
theorem Reaches.local : Local (Reaches arity? power) (Reaches arity? power) := by
  intro ts left mid h
  induction h with
  | start h =>
    obtain ⟨t, pre, rfl, hread⟩ := Primary.local (S := Reads arity?) (fun _ => Reads.local) h
    exact ⟨t, pre, rfl, fun mid' hle => .start (hread mid' hle)⟩
  | link _ hpower h ih =>
    obtain ⟨t, pre, rfl, hreach⟩ := ih
    obtain ⟨u, pre', rfl, hread⟩ := Extension.local (S := Reads arity?) (fun _ => Reads.local) h
    refine ⟨t, pre ++ u :: pre', by simp, fun mid' hle => ?_⟩
    have hlink := Reaches.link (hreach (u :: (pre' ++ mid')) (Nat.le_refl _)) hpower (hread mid' hle)
    simpa using hlink

end JsonQuery.Grammar
