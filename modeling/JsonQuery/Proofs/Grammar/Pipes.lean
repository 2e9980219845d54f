import JsonQuery.Eval
import JsonQuery.Proofs.Eval.Result
import JsonQuery.Proofs.Grammar.Locality

/-!
# Pipes in a chain

* `chain_ok`, `chain_mono`, `chain_split` — the steps of a chain, within a larger allowance and up to a
  token that binds weaker.
* `Expr.Composes` — an expression has the results of a second one on the values of a first one.
* `chain_pipes` — pipes behind a composition compose further.
* `expression_piped` — an expression in parentheses, a pipe and a second expression are read as their
  composition within two more levels of nesting.
-/

namespace JsonQuery

/-! ## Composition -/

/-- The results of `c` are those of `b` on the values of `a`. -/
def Expr.Composes (a b c : Expr) : Prop :=
  ∀ r v, (c.eval r v).result = (a.eval r v).result >>= fun w => (b.eval r w).result

namespace Expr

theorem composes_pipe (a b : Expr) : Composes a b (.pipe a b) := by
  intro r v
  rw [eval, Traced.result_bind]

/-- Composition is associative: a pipe behind the composition is one behind its second part. -/
theorem Composes.pipe {a b c : Expr} (h : Composes a b c) (d : Expr) :
    Composes a (.pipe b d) (.pipe c d) := by
  intro r v
  rw [composes_pipe c d r v, h r v, bind_assoc]
  exact bind_congr fun w => (composes_pipe b d r w).symm

end Expr

namespace Grammar

variable {arity? : String → Option Arity} {limit limit' depth n m power stop : Nat}
  {ss ts mid mid' rest : List Token} {a b e left left' lhs before : Expr}

/-! ## The steps of a chain -/

/-- A chain ends in front of a token that binds no stronger, or is taken further by the next token and
goes on with one less. -/
theorem chain_ok : chain arity? limit n power left mid = .ok (e, rest) ↔
    (Token.nextPower mid ≤ power ∧ left = e ∧ mid = rest) ∨
      (power < Token.nextPower mid ∧ ∃ m left' mid', n = m + 1 ∧
        Extension (readings (expression arity? limit m)) left mid left' mid' ∧
          chain arity? limit m power left' mid' = .ok (e, rest)) := by
  constructor
  · intro h
    unfold chain at h
    split at h
    · cases h
      exact .inl ⟨‹_›, rfl, rfl⟩
    · rename_i hpower
      split at h
      · cases h
      · split at h
        · cases h
        · rename_i hextend
          exact .inr ⟨by omega, _, _, _, rfl, extend_ok.1 hextend, h⟩
  · rintro (⟨hstop, rfl, rfl⟩ | ⟨hpower, m, left', mid', rfl, h, hchain⟩)
    · exact chain_stop hstop
    · exact (chain_step hpower h).trans hchain

/-- A larger allowance takes a chain as far, whatever a fault would name. -/
theorem chain_mono (h : chain arity? limit n power left mid = .ok (e, rest)) (hle : n ≤ m) :
    chain arity? limit' m power left mid = .ok (e, rest) := by
  induction n generalizing m left mid with
  | zero =>
    obtain ⟨hstop, rfl, rfl⟩ | ⟨_, _, _, _, hzero, _⟩ := chain_ok.1 h
    · exact chain_stop hstop
    · cases hzero
  | succ n ih =>
    obtain ⟨hstop, rfl, rfl⟩ | ⟨hpower, k, left', mid', heq, hext, hchain⟩ := chain_ok.1 h
    · exact chain_stop hstop
    · cases heq
      obtain ⟨m, rfl⟩ : ∃ k, m = k + 1 := ⟨m - 1, by omega⟩
      have hext : Extension (readings (expression arity? limit' m)) left mid left' mid' :=
        hext.imp fun h => expression_mono h (by omega)
      exact chain_ok.2 (.inr ⟨hpower, m, left', mid', rfl, hext, ih hchain (by omega)⟩)

/-- A chain first gets in front of a token that binds no stronger than `stop`, and goes on from there
with what is left of its allowance. -/
theorem chain_split (hle : power ≤ stop) (h : chain arity? limit n power left mid = .ok (e, rest)) :
    ∃ m left' mid', m ≤ n ∧ chain arity? limit n stop left mid = .ok (left', mid') ∧
      Token.nextPower mid' ≤ stop ∧ chain arity? limit m power left' mid' = .ok (e, rest) := by
  induction n generalizing left mid with
  | zero =>
    obtain ⟨hstop, rfl, rfl⟩ | ⟨_, _, _, _, hzero, _⟩ := chain_ok.1 h
    · exact ⟨0, _, _, Nat.le_refl _, chain_stop (Nat.le_trans hstop hle), Nat.le_trans hstop hle,
        chain_stop hstop⟩
    · cases hzero
  | succ n ih =>
    by_cases hstop : Token.nextPower mid ≤ stop
    · exact ⟨n + 1, left, mid, Nat.le_refl _, chain_stop hstop, hstop, h⟩
    · obtain ⟨hend, _⟩ | ⟨_, k, left', mid', heq, hext, hchain⟩ := chain_ok.1 h
      · omega
      · cases heq
        obtain ⟨m, left'', mid'', hm, hhead, hnext, htail⟩ := ih hchain
        exact ⟨m, left'', mid'', by omega,
          chain_ok.2 (.inr ⟨by omega, n, left', mid', rfl, hext, hhead⟩), hnext, htail⟩

/-! ## Pipes -/

/-- A token that binds, but no stronger than a pipe, is a pipe. -/
theorem Extension.of_pipe {S : Reading} (h : Extension S left mid left' mid')
    (hpower : Token.nextPower mid ≤ Token.pipe.power) :
    ∃ ts rhs, mid = .pipe :: ts ∧ left' = .pipe left rhs ∧ S Token.pipe.power ts rhs mid' := by
  cases h with
  | pipe h => exact ⟨_, _, rfl, rfl, h⟩
  | @binary t _ _ _ _ hop h =>
    cases t with
    | or | and | eq | ne | lt | le | gt | ge => simp [Token.power] at hpower
    | _ => cases hop
  | _ => simp [Token.power] at hpower

/-- Pipes behind an expression, read behind a composition with it instead, compose further. -/
theorem chain_pipes (hnext : Token.nextPower mid ≤ Token.pipe.power)
    (h : chain arity? limit n 0 left mid = .ok (e, rest)) (hlhs : Expr.Composes before left lhs) :
    ∃ out, chain arity? limit n 0 lhs mid = .ok (out, rest) ∧ Expr.Composes before e out := by
  induction n generalizing left lhs mid with
  | zero =>
    obtain ⟨hstop, rfl, rfl⟩ | ⟨_, _, _, _, hzero, _⟩ := chain_ok.1 h
    · exact ⟨lhs, chain_stop hstop, hlhs⟩
    · cases hzero
  | succ n ih =>
    obtain ⟨hstop, rfl, rfl⟩ | ⟨hpower, k, left', mid', heq, hext, hchain⟩ := chain_ok.1 h
    · exact ⟨lhs, chain_stop hstop, hlhs⟩
    · cases heq
      obtain ⟨ts, rhs, rfl, rfl, hrhs⟩ := hext.of_pipe hnext
      have hnext' : Token.nextPower mid' ≤ Token.pipe.power := Reads.nextPower_le ⟨_, _, hrhs⟩
      obtain ⟨out, hout, hcomposes⟩ := ih hnext' hchain (hlhs.pipe rhs)
      exact ⟨out, chain_ok.2 (.inr ⟨hpower, n, _, _, rfl, .pipe hrhs, hout⟩), hcomposes⟩

/-- An expression in parentheses, a pipe and a second expression are read as their composition.  The
parentheses and the pipe each take a level of nesting. -/
theorem expression_piped (ha : expression arity? limit depth 0 ss = .ok (a, []))
    (hb : expression arity? limit depth 0 ts = .ok (b, [])) (hle : depth + 2 ≤ n) :
    ∃ c, expression arity? limit' n 0 (.openParen :: (ss ++ .closeParen :: .pipe :: ts)) = .ok (c, []) ∧
      Expr.Composes a b c := by
  obtain ⟨n, rfl⟩ : ∃ k, n = k + 2 := ⟨n - 2, by omega⟩
  have hgroup : Primary arity? (readings (expression arity? limit' (n + 1)))
      (.openParen :: (ss ++ .closeParen :: .pipe :: ts)) a (.pipe :: ts) := by
    obtain ⟨t, pre, rfl, hread⟩ := expression_local ha
    have hinner := hread (.closeParen :: .pipe :: ts) (Nat.le_refl _)
    rw [List.append_nil]
    exact .group (expression_mono hinner (by omega))
  -- the second expression up to its first pipe is read as the right side of the new pipe
  obtain ⟨depth, rfl⟩ : ∃ k, depth = k + 1 := by
    cases depth with
    | zero => cases hb
    | succ k => exact ⟨k, rfl⟩
  rw [expression] at hb
  split at hb
  · cases hb
  rename_i first mid hprimary
  obtain ⟨m, rhs, mid', hm, hhead, hnext, htail⟩ := chain_split (Nat.zero_le Token.pipe.power) hb
  have hrhs := expression_succ (primary_ok.1 hprimary) hhead
  have hpipe : Extension (readings (expression arity? limit' n)) a (.pipe :: ts) (.pipe a rhs) mid' :=
    .pipe (expression_mono hrhs (by omega))
  obtain ⟨c, hc, hcomposes⟩ := chain_pipes hnext htail (Expr.composes_pipe a rhs)
  refine ⟨c, expression_succ hgroup ?_, hcomposes⟩
  exact chain_ok.2 (.inr ⟨Nat.one_pos, n, _, _, rfl, hpipe, chain_mono hc (by omega)⟩)

end Grammar

end JsonQuery
