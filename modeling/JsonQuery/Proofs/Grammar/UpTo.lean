import JsonQuery.Proofs.Grammar.Effectful

/-!
# The same reading up to some faults

What a reader accepts, and what else is wrong with a text, does not change when it knows more functions
or may nest deeper.

* `Simulation.upTo` — the same reading, unless the first ends in a fault of a given kind.
* `MoreNames`, `MoreDepth` — a second reader that knows more names, or that has a larger allowance.
* `expression_upTo`, `Expr.parse_upTo` — it reads the same, unless the first reader ends in such a fault.
-/

namespace JsonQuery

namespace Grammar

/-- The same reading, unless the first ends in a fault of a given kind. -/
def Simulation.upTo (Bad : ParseError.Cause → Prop) : Simulation (Except Fault) where
  holds x y := x = y ∨ ∃ fault, x = .error fault ∧ Bad fault.cause
  pure _ := .inl rfl
  fail _ := .inl rfl
  called h := h
  bind {_ _ x _ _ _} h herror hok := by
    rcases h with rfl | ⟨fault, rfl, hbad⟩
    · cases x with
      | error fault => exact .inl (herror fault rfl).symm
      | ok a => exact hok a rfl
    · exact .inr ⟨fault, rfl, hbad⟩

/-! ## The grammar itself -/

theorem effectful_primary (arity? : String → Option Arity) (sub : Reader) (ts : List Token) :
    Effectful.primary (m := Except Fault) arity? sub ts = primary arity? sub ts := by
  have hsub : ∀ power ts, (Simulation.upTo fun _ => False).holds (sub power ts) (sub power ts) :=
    fun _ _ => .inl rfl
  have h := (Simulation.upTo fun _ => False).primary hsub
    ((Simulation.upTo fun _ => False).arity arity?) ts
  simpa [Simulation.upTo] using h

theorem effectful_extend (sub : Reader) (left : Expr) (ts : List Token) :
    Effectful.extend (m := Except Fault) sub left ts = extend sub left ts := by
  have hsub : ∀ power ts, (Simulation.upTo fun _ => False).holds (sub power ts) (sub power ts) :=
    fun _ _ => .inl rfl
  have h := (Simulation.upTo fun _ => False).extend hsub left ts
  simpa [Simulation.upTo] using h

/-! ## Readers with more functions or a larger allowance -/

section UpTo

variable {arity? arity?' : String → Option Arity} {Bad : ParseError.Cause → Prop}
  {limit limit' depth depth' : Nat}

/-- The second look-up knows what the first knows; where it knows more, the fault of an unknown name
is of the given kind. -/
def MoreNames (Bad : ParseError.Cause → Prop) (arity? arity?' : String → Option Arity) : Prop :=
  ∀ name, arity? name = arity?' name ∨ arity? name = none ∧ Bad (.unknownFunction name)

/-- The second allowance is the first, or it is no less and the fault of the first is of the given
kind. -/
def MoreDepth (Bad : ParseError.Cause → Prop) (limit limit' depth depth' : Nat) : Prop :=
  limit = limit' ∧ depth = depth' ∨ depth ≤ depth' ∧ Bad (.tooDeep limit)

theorem MoreNames.arity (h : MoreNames Bad arity? arity?') (name : String) (whole : List Token) :
    (Simulation.upTo Bad).holds (Effectful.arity (m := Except Fault) arity? name whole)
      (Effectful.arity (m := Except Fault) arity?' name whole) := by
  unfold Effectful.arity
  rcases h name with hsame | ⟨hnone, hbad⟩
  · rw [hsame]
    exact .inl rfl
  · rw [hnone]
    exact .inr ⟨_, rfl, hbad⟩

theorem primary_upTo (harity : MoreNames Bad arity? arity?') {sub sub' : Reader}
    (hsub : ∀ power ts, (Simulation.upTo Bad).holds (sub power ts) (sub' power ts))
    (ts : List Token) :
    (Simulation.upTo Bad).holds (primary arity? sub ts) (primary arity?' sub' ts) := by
  rw [← effectful_primary arity? sub]
  exact (Simulation.upTo Bad).primary hsub harity.arity ts

theorem extend_upTo {sub sub' : Reader}
    (hsub : ∀ power ts, (Simulation.upTo Bad).holds (sub power ts) (sub' power ts))
    (left : Expr) (ts : List Token) :
    (Simulation.upTo Bad).holds (extend sub left ts) (extend sub' left ts) := by
  rw [← effectful_extend sub]
  exact (Simulation.upTo Bad).extend hsub left ts

theorem MoreDepth.refl (limit depth : Nat) : MoreDepth Bad limit limit depth depth := .inl ⟨rfl, rfl⟩

theorem MoreDepth.pred (h : MoreDepth Bad limit limit' (depth + 1) depth') :
    ∃ n, depth' = n + 1 ∧ MoreDepth Bad limit limit' depth n := by
  rcases h with ⟨rfl, rfl⟩ | ⟨hle, hbad⟩
  · exact ⟨depth, rfl, .inl ⟨rfl, rfl⟩⟩
  · exact ⟨depth' - 1, by omega, .inr ⟨by omega, hbad⟩⟩

/-- Where the first allowance is used up, so is the second, or the fault is of the given kind. -/
theorem MoreDepth.zero {α : Type} (h : MoreDepth Bad limit limit' 0 depth') {ts : List Token}
    {y : Except Fault α} (hy : depth' = 0 → y = .error ⟨.tooDeep limit', ts⟩) :
    (Simulation.upTo Bad).holds (.error ⟨.tooDeep limit, ts⟩) y := by
  rcases h with ⟨rfl, hzero⟩ | ⟨_, hbad⟩
  · exact .inl (hy hzero.symm).symm
  · exact .inr ⟨_, rfl, hbad⟩

theorem chain_upTo (hdepth : MoreDepth Bad limit limit' depth depth')
    (hsub : ∀ n n', n < depth → MoreDepth Bad limit limit' n n' → ∀ power ts,
      (Simulation.upTo Bad).holds (expression arity? limit n power ts)
        (expression arity?' limit' n' power ts))
    (power : Nat) (left : Expr) (ts : List Token) :
    (Simulation.upTo Bad).holds (chain arity? limit depth power left ts)
      (chain arity?' limit' depth' power left ts) := by
  induction depth generalizing depth' left ts with
  | zero =>
    rw [chain.eq_def, chain.eq_def arity?']
    by_cases hpower : Token.nextPower ts ≤ power
    · simp only [if_pos hpower]
      exact .inl rfl
    · simp only [if_neg hpower]
      exact hdepth.zero fun h => by rw [h]
  | succ depth ih =>
    obtain ⟨n, rfl, hpred⟩ := hdepth.pred
    rw [chain, chain]
    by_cases hpower : Token.nextPower ts ≤ power
    · simp only [if_pos hpower]
      exact .inl rfl
    · simp only [if_neg hpower]
      rcases extend_upTo (hsub depth n (Nat.lt_succ_self _) hpred) left ts with
        hsame | ⟨fault, hfault, hbad⟩
      · rw [hsame]
        cases extend (expression arity?' limit' n) left ts with
        | error fault => exact .inl rfl
        | ok r => exact ih hpred (fun k k' hk => hsub k k' (by omega)) _ _
      · rw [hfault]
        exact .inr ⟨_, rfl, hbad⟩

theorem expression_upTo (harity : MoreNames Bad arity? arity?')
    (hdepth : MoreDepth Bad limit limit' depth depth') (power : Nat) (ts : List Token) :
    (Simulation.upTo Bad).holds (expression arity? limit depth power ts)
      (expression arity?' limit' depth' power ts) := by
  induction depth using Nat.strongRecOn generalizing depth' power ts with
  | ind depth ih =>
    cases depth with
    | zero =>
      rw [expression]
      exact hdepth.zero fun h => by rw [h, expression]
    | succ depth =>
      obtain ⟨n, rfl, hpred⟩ := hdepth.pred
      rw [expression, expression]
      rcases primary_upTo harity (ih depth (Nat.lt_succ_self _) hpred) ts with
        hsame | ⟨fault, hfault, hbad⟩
      · rw [hsame]
        cases primary arity?' (expression arity?' limit' n) ts with
        | error fault => exact .inl rfl
        | ok r => exact chain_upTo hpred (fun k k' hk h => ih k (by omega) h) power _ _
      · rw [hfault]
        exact .inr ⟨_, rfl, hbad⟩

theorem whole_upTo (harity : MoreNames Bad arity? arity?')
    (hlimit : MoreDepth Bad limit limit' limit limit') (ts : List Token) :
    (Simulation.upTo Bad).holds (whole arity? limit ts) (whole arity?' limit' ts) := by
  unfold whole
  rcases expression_upTo harity hlimit 0 ts with hsame | ⟨fault, hfault, hbad⟩
  · rw [hsame]
    exact .inl rfl
  · rw [hfault]
    exact .inr ⟨_, rfl, hbad⟩

end UpTo

end Grammar

/-- A text has the same expression or the same fault, unless the first fault is of the given kind. -/
theorem Expr.parse_upTo {arity? arity?' : String → Option Arity} {limit limit' : Nat}
    {Bad : ParseError.Cause → Prop} (harity : Grammar.MoreNames Bad arity? arity?')
    (hlimit : Grammar.MoreDepth Bad limit limit' limit limit') (text : String) :
    Expr.parse arity? limit text = Expr.parse arity?' limit' text ∨
      ∃ error, Expr.parse arity? limit text = .error error ∧ Bad error.cause := by
  unfold Expr.parse
  split
  · exact .inl rfl
  · rename_i row _
    rcases Grammar.whole_upTo harity hlimit row.tokens with hsame | ⟨fault, hfault, hbad⟩
    · rw [hsame]
      exact .inl rfl
    · rw [hfault]
      exact .inr ⟨_, rfl, hbad⟩

end JsonQuery
