import JsonQuery.Proofs.Grammar.Induction

/-!
# Readings within a large enough allowance

* `expression_mono` — a larger allowance gives the same reading.
* `Reads` — a reading within some allowance; `Reaches` — how far the chain of an expression gets.
* `reads_iff` — the rules of the grammar without allowances; `reads_induction` — induction on them.
-/

namespace JsonQuery.Grammar

variable {arity? : String → Option Arity} {power limit n depth : Nat} {ts mid mid' rest : List Token}
  {e left left' lhs : Expr}

@[simp] theorem nextPower_cons {t : Token} : Token.nextPower (t :: ts) = t.power := rfl

/-! ## One step of a chain -/

theorem expression_succ {r : Expr × List Token}
    (h : Primary arity? (readings (expression arity? limit depth)) ts left mid)
    (hchain : chain arity? limit depth power left mid = .ok r) :
    expression arity? limit (depth + 1) power ts = .ok r := by
  rw [expression, primary_ok.2 h]
  exact hchain

theorem chain_stop (h : Token.nextPower mid ≤ power) :
    chain arity? limit n power left mid = .ok (left, mid) := by
  unfold chain
  rw [if_pos h]

theorem chain_step (hpower : power < Token.nextPower mid)
    (h : Extension (readings (expression arity? limit n)) left mid left' mid') :
    chain arity? limit (n + 1) power left mid = chain arity? limit n power left' mid' := by
  rw [chain, if_neg (by omega)]
  simp only [extend_ok.2 h]

/-- A larger allowance gives the same reading, whatever a fault would name. -/
theorem expression_mono {limit' depth' : Nat}
    (h : expression arity? limit depth power ts = .ok (e, rest)) (hle : depth ≤ depth') :
    expression arity? limit' depth' power ts = .ok (e, rest) := by
  refine expression_induction
    (P := fun depth power ts e rest => ∀ depth' ≥ depth,
      expression arity? limit' depth' power ts = .ok (e, rest))
    (C := fun depth n power ts left mid => n ≤ depth ∧ ∀ depth' ≥ depth, ∀ r,
      chain arity? limit' (depth' - (depth - n)) power left mid = .ok r →
        expression arity? limit' (depth' + 1) power ts = .ok r)
    ?start ?step ?stop _ _ _ _ _ h depth' hle
  case start =>
    intro depth power ts left mid h
    refine ⟨Nat.le_refl _, fun depth' hle r hchain => ?_⟩
    rw [Nat.sub_self] at hchain
    exact expression_succ (h.imp fun h => h.2 depth' hle) hchain
  case step =>
    rintro depth n power ts left mid left' mid' ⟨hn, hC⟩ hpower h
    refine ⟨by omega, fun depth' hle r hchain => hC depth' hle r ?_⟩
    have heq : depth' - (depth - (n + 1)) = depth' - (depth - n) + 1 := by omega
    rw [heq, chain_step hpower (h.imp fun h => h.2 _ (by omega))]
    exact hchain
  case stop =>
    rintro depth n power ts e rest ⟨_, hC⟩ hpower depth' hle
    obtain ⟨m, rfl⟩ : ∃ m, depth' = m + 1 := ⟨depth' - 1, by omega⟩
    exact hC m (by omega) _ (chain_stop hpower)

/-! ## Large enough allowances -/

/-- A reading within some allowance. -/
def Reads (arity? : String → Option Arity) : Reading := fun power ts e rest =>
  ∃ limit depth, expression arity? limit depth power ts = .ok (e, rest)

/-- From some allowance on, a reading succeeds. -/
theorem Reads.within (h : Reads arity? power ts e rest) :
    ∃ bound, ∀ depth ≥ bound, ∀ limit, expression arity? limit depth power ts = .ok (e, rest) := by
  obtain ⟨_, bound, h⟩ := h
  exact ⟨bound, fun _ hle _ => expression_mono h hle⟩

theorem Sequence.union {α : Type} {item : List Token → α → List Token → Prop}
    {I : Nat → List Token → α → List Token → Prop} {close : Closing} {as : List α}
    (himp : ∀ {n m}, n ≤ m → ∀ {ts a rest}, I n ts a rest → I m ts a rest)
    (hitem : ∀ {ts a rest}, item ts a rest → ∃ n, I n ts a rest)
    (h : Sequence item close ts as rest) : ∃ n, Sequence (I n) close ts as rest := by
  induction h with
  | last h hclose =>
    obtain ⟨n, h⟩ := hitem h
    exact ⟨n, .last h hclose⟩
  | more h hlt _ ih =>
    obtain ⟨n, h⟩ := hitem h
    obtain ⟨m, hs⟩ := ih
    exact ⟨max n m, .more (himp (Nat.le_max_left n m) h) hlt (hs.imp (himp (Nat.le_max_right n m)))⟩

section Union

variable {R : Nat → Reading} {S : Reading}
  (hmono : ∀ {n m}, n ≤ m → ∀ {power ts e rest}, R n power ts e rest → R m power ts e rest)
  (hunion : ∀ {power ts e rest}, S power ts e rest → ∃ n, R n power ts e rest)
include hmono hunion

omit hmono in
theorem Named.union {p : String × Expr} (h : Named S ts p rest) : ∃ n, Named (R n) ts p rest := by
  cases h with
  | identifier h => exact (hunion h).imp fun _ h => .identifier h
  | quoted h => exact (hunion h).imp fun _ h => .quoted h

theorem union_list {es : List Expr} {close : Closing} (h : Sequence (S 0) close ts es rest) :
    ∃ n, Sequence (R n 0) close ts es rest :=
  h.union (I := fun n => R n 0) (fun hle => hmono hle) hunion

theorem union_hash {ps : List (String × Expr)} (h : Sequence (Named S) .brace ts ps rest) :
    ∃ n, Sequence (Named (R n)) .brace ts ps rest :=
  h.union (I := fun n => Named (R n)) (fun hle => Named.imp (hmono hle)) (Named.union hunion)

theorem AfterDot.union (h : AfterDot S power ts e rest) : ∃ n, AfterDot (R n) power ts e rest := by
  cases h with
  | list h => exact (union_list hmono hunion h).imp fun _ h => .list h
  | hash h => exact (union_hash hmono hunion h).imp fun _ h => .hash h
  | step ht h => exact (hunion h).imp fun _ h => .step ht h

theorem Projected.union (h : Projected S power ts e rest) :
    ∃ n, Projected (R n) power ts e rest := by
  cases h with
  | none hstop => exact ⟨0, .none hstop⟩
  | dot h => exact (h.union hmono hunion).imp fun _ h => .dot h
  | bracket h => exact (hunion h).imp fun _ h => .bracket h
  | filter h => exact (hunion h).imp fun _ h => .filter h

theorem Bracketed.union (h : Bracketed S lhs ts e rest) : ∃ n, Bracketed (R n) lhs ts e rest := by
  cases h with
  | index => exact ⟨0, .index⟩
  | list h => exact (h.union hmono hunion).imp fun _ h => .list h
  | slice hzero h => exact (h.union hmono hunion).imp fun _ h => .slice hzero h

theorem Filtered.union (h : Filtered S lhs ts e rest) : ∃ n, Filtered (R n) lhs ts e rest := by
  obtain ⟨hpredicate, hrhs⟩ := h
  obtain ⟨n, hpredicate⟩ := hunion hpredicate
  obtain ⟨m, hrhs⟩ := hrhs.union hmono hunion
  exact ⟨max n m, .mk (hmono (Nat.le_max_left n m) hpredicate)
    (hrhs.imp (hmono (Nat.le_max_right n m)))⟩

theorem Primary.union (h : Primary arity? S ts e rest) : ∃ n, Primary arity? (R n) ts e rest := by
  cases h with
  | current => exact ⟨0, .current⟩
  | identifier hparen => exact ⟨0, .identifier hparen⟩
  | call harity haccepts h =>
    cases h with
    | none => exact ⟨0, .call harity haccepts .none⟩
    | some hparen h =>
      exact (union_list hmono hunion h).imp fun _ h => .call harity haccepts (.some hparen h)
  | quoted hparen => exact ⟨0, .quoted hparen⟩
  | raw => exact ⟨0, .raw⟩
  | literal => exact ⟨0, .literal⟩
  | values h => exact (h.union hmono hunion).imp fun _ h => .values h
  | bracketed h => exact (h.union hmono hunion).imp fun _ h => .bracketed h
  | multiList hbracket h => exact (union_list hmono hunion h).imp fun _ h => .multiList hbracket h
  | flatten h => exact (h.union hmono hunion).imp fun _ h => .flatten h
  | filter h => exact (h.union hmono hunion).imp fun _ h => .filter h
  | multiHash h => exact (union_hash hmono hunion h).imp fun _ h => .multiHash h
  | reference h => exact (hunion h).imp fun _ h => .reference h
  | not h => exact (hunion h).imp fun _ h => .not h
  | group h => exact (hunion h).imp fun _ h => .group h

theorem Extension.union (h : Extension S left ts e rest) :
    ∃ n, Extension (R n) left ts e rest := by
  cases h with
  | values h => exact (h.union hmono hunion).imp fun _ h => .values h
  | subexpr hstar h => exact (h.union hmono hunion).imp fun _ h => .subexpr hstar h
  | bracketed h => exact (h.union hmono hunion).imp fun _ h => .bracketed h
  | flatten h => exact (h.union hmono hunion).imp fun _ h => .flatten h
  | filter h => exact (h.union hmono hunion).imp fun _ h => .filter h
  | pipe h => exact (hunion h).imp fun _ h => .pipe h
  | resembles hregex => exact ⟨0, .resembles hregex⟩
  | binary hop h => exact (hunion h).imp fun _ h => .binary hop h

end Union

/-! ## Rules without allowances -/

/-- How far the chain of an expression gets: an expression starts, and tokens that bind stronger
than `power` take it further. -/
inductive Reaches (arity? : String → Option Arity) (power : Nat) (ts : List Token) :
    Expr → List Token → Prop
  | start {left : Expr} {mid : List Token} : Primary arity? (Reads arity?) ts left mid →
      Reaches arity? power ts left mid
  | link {left left' : Expr} {mid mid' : List Token} : Reaches arity? power ts left mid →
      power < Token.nextPower mid → Extension (Reads arity?) left mid left' mid' →
      Reaches arity? power ts left' mid'

/-- A chain that gets somewhere does so within all large enough allowances. -/
theorem Reaches.within (h : Reaches arity? power ts left mid) :
    ∃ used bound, used ≤ bound ∧ ∀ depth ≥ bound, ∀ r,
      chain arity? 0 (depth - used) power left mid = .ok r →
        expression arity? 0 (depth + 1) power ts = .ok r := by
  have hmono : ∀ {n m : Nat}, n ≤ m → ∀ {power ts e rest},
      readings (expression arity? 0 n) power ts e rest →
        readings (expression arity? 0 m) power ts e rest :=
    fun hle _ _ _ _ h => expression_mono h hle
  have hunion : ∀ {power ts e rest}, Reads arity? power ts e rest →
      ∃ n, readings (expression arity? 0 n) power ts e rest := by
    rintro power ts e rest ⟨_, depth, h⟩
    exact ⟨depth, expression_mono h (Nat.le_refl _)⟩
  induction h with
  | start h =>
    obtain ⟨n, h⟩ := h.union (R := fun n => readings (expression arity? 0 n)) hmono hunion
    exact ⟨0, n, Nat.zero_le _, fun depth hle r hchain => expression_succ (h.imp (hmono hle)) hchain⟩
  | link _ hpower h ih =>
    obtain ⟨used, bound, hle, ih⟩ := ih
    obtain ⟨n, h⟩ := h.union (R := fun n => readings (expression arity? 0 n)) hmono hunion
    refine ⟨used + 1, bound + n + 1, by omega, fun depth hdepth r hchain => ih depth (by omega) r ?_⟩
    have heq : depth - used = depth - (used + 1) + 1 := by omega
    rw [heq, chain_step hpower (h.imp (hmono (by omega)))]
    exact hchain

/-- **The rules of the grammar without allowances**: an expression is read as far as its chain gets
before a token that binds no stronger than the power. -/
theorem reads_iff : Reads arity? power ts e rest ↔
    Reaches arity? power ts e rest ∧ Token.nextPower rest ≤ power := by
  constructor
  · rintro ⟨limit, depth, h⟩
    have hread : ∀ {power ts e rest depth},
        readingsWith arity? limit (fun _ _ _ _ _ => True) depth power ts e rest →
          Reads arity? power ts e rest := fun h => ⟨limit, _, h.1⟩
    refine expression_induction
      (P := fun _ power ts e rest => Reaches arity? power ts e rest ∧ Token.nextPower rest ≤ power)
      (C := fun _ _ power ts left mid => Reaches arity? power ts left mid) ?start ?step ?stop
      _ _ _ _ _ h
    case start => exact fun _ _ _ _ _ h => .start (h.imp fun h => ⟨limit, _, h.1⟩)
    case step =>
      exact fun _ _ _ _ _ _ _ _ hreach hpower h =>
        .link hreach hpower (h.imp fun h => ⟨limit, _, h.1⟩)
    case stop => exact fun _ _ _ _ _ _ hreach hpower => ⟨hreach, hpower⟩
  · rintro ⟨hreach, hpower⟩
    obtain ⟨_, bound, _, h⟩ := hreach.within
    exact ⟨0, bound + 1, h bound (Nat.le_refl _) _ (chain_stop hpower)⟩

theorem Reads.reaches (h : Reads arity? power ts e rest) : Reaches arity? power ts e rest :=
  (reads_iff.1 h).1

theorem Reads.nextPower_le (h : Reads arity? power ts e rest) : Token.nextPower rest ≤ power :=
  (reads_iff.1 h).2

/-- Readings that have a property. -/
def readsWith (arity? : String → Option Arity)
    (P : Nat → List Token → Expr → List Token → Prop) : Reading :=
  fun power ts e rest => Reads arity? power ts e rest ∧ P power ts e rest

/-- **Induction on readings.**  As `expression_induction`, without allowances. -/
theorem reads_induction {P : Nat → List Token → Expr → List Token → Prop}
    {C : Nat → List Token → Expr → List Token → Prop}
    (start : ∀ {power ts left mid}, Primary arity? (readsWith arity? P) ts left mid →
      C power ts left mid)
    (step : ∀ {power ts left mid left' mid'}, Reaches arity? power ts left mid →
      C power ts left mid → power < Token.nextPower mid → Extension (readsWith arity? P) left mid left' mid' →
      C power ts left' mid')
    (stop : ∀ {power ts e rest}, C power ts e rest → Token.nextPower rest ≤ power →
      P power ts e rest)
    (h : Reads arity? power ts e rest) : P power ts e rest := by
  obtain ⟨limit, depth, h⟩ := h
  refine expression_induction (P := fun _ => P)
    (C := fun _ _ power ts left mid => Reaches arity? power ts left mid ∧ C power ts left mid)
    ?start ?step ?stop _ _ _ _ _ h
  case start =>
    intro _ _ _ _ _ h
    exact ⟨.start (h.imp fun h => ⟨limit, _, h.1⟩), start (h.imp fun h => ⟨⟨limit, _, h.1⟩, h.2⟩)⟩
  case step =>
    rintro _ _ _ _ _ _ _ _ ⟨hreach, hC⟩ hpower h
    exact ⟨.link hreach hpower (h.imp fun h => ⟨limit, _, h.1⟩),
      step hreach hC hpower (h.imp fun h => ⟨⟨limit, _, h.1⟩, h.2⟩)⟩
  case stop => exact fun _ _ _ _ _ _ hC hpower => stop hC.2 hpower

end JsonQuery.Grammar
