import JsonQuery.Proofs.Eval.Alike
import JsonQuery.Proofs.Grammar.Locality

/-!
# Chains that go on

* `Links` — further steps of a chain.
* `Side` — the right side of a projection that a filter ends; `Projected.at_filter` — one that no
  filter ends is read in the same way at the power of a filter.
* `Onward` — further steps whose results only depend on the results so far.
-/

namespace JsonQuery.Grammar

variable {arity? : String → Option Arity} {S : Reading} {power : Nat}
  {ts mid mid' rest : List Token} {e e' left left' : Expr}

/-! ## Right sides that a filter ends -/

/-- The tokens make up a right side that ends in front of a filter, as those of a filter do. -/
def Side (arity? : String → Option Arity) (ts : List Token) : Prop :=
  ∃ rhs, Projected (Reads arity?) Token.filter.power (ts ++ [.filter]) rhs [.filter]

theorem Projected.side (h : Projected (Reads arity?) Token.filter.power ts e (.filter :: mid)) :
    ∃ taken, ts = taken ++ .filter :: mid ∧ Side arity? taken := by
  obtain ⟨taken, rfl, hread⟩ := h.local (S := Reads arity?) (fun _ => Reads.local)
  exact ⟨taken, rfl, e, hread [.filter] (Nat.le_refl _)⟩

theorem eq_filter_of_nextPower (h : Token.nextPower ts = Token.filter.power) :
    ∃ more, ts = .filter :: more := by
  rcases ts with _ | ⟨t, ts⟩
  · cases h
  · cases t <;> first | exact ⟨ts, rfl⟩ | cases h

/-- What is read behind `[*]` is read at the power of a filter too, unless that ends it. -/
theorem Reads.at_filter (h : Reads arity? Token.star.power ts e rest)
    (hends : ∀ left mid, ¬ Reads arity? Token.filter.power ts left (.filter :: mid)) :
    Reads arity? Token.filter.power ts e rest := by
  have hreach : ∀ {left mid}, Reaches arity? Token.star.power ts left mid →
      Reaches arity? Token.filter.power ts left mid := by
    intro left mid h
    induction h with
    | start h => exact .start h
    | link _ hpower h ih =>
      refine .link ih (Nat.lt_of_le_of_ne hpower fun heq => ?_) h
      obtain ⟨more, rfl⟩ := eq_filter_of_nextPower heq.symm
      exact hends _ more (reads_iff.2 ⟨ih, Nat.le_refl _⟩)
  exact reads_iff.2 ⟨hreach h.reaches, Nat.le_succ_of_le h.nextPower_le⟩

/-- A right side is read in the same way at the power of a filter, unless a filter ends it. -/
theorem Projected.at_filter (h : Projected (Reads arity?) Token.star.power ts e rest)
    (hends : ∀ taken, taken ++ [.filter] <+: ts → ¬ Side arity? taken) :
    Projected (Reads arity?) Token.filter.power ts e rest := by
  have hends : ∀ e mid, ¬ Projected (Reads arity?) Token.filter.power ts e (.filter :: mid) := by
    intro e mid h
    obtain ⟨taken, rfl, hside⟩ := h.side
    exact hends taken ⟨mid, by simp⟩ hside
  cases h with
  | none hstop => exact .none hstop
  | dot h =>
    cases h with
    | list h => exact .dot (.list h)
    | hash h => exact .dot (.hash h)
    | step ht h => exact .dot (.step ht (h.at_filter fun _ _ h => hends _ _ (.dot (.step ht h))))
  | bracket h => exact .bracket (h.at_filter fun _ _ h => hends _ _ (.bracket h))
  | filter h => exact .filter (h.at_filter fun _ _ h => hends _ _ (.filter h))

theorem Bracketed.of_star (h : Bracketed S left (.star :: .closeBracket :: ts) e rest) :
    ∃ rhs, e = .project .list left rhs ∧ Projected S Token.star.power ts rhs rest := by
  generalize hts : Token.star :: Token.closeBracket :: ts = ts' at h
  cases h with
  | index => cases hts
  | list h =>
    cases hts
    exact ⟨_, rfl, h⟩
  | @slice start => cases start <;> cases hts

/-! ## Further steps -/

/-- How far further steps take an expression. -/
inductive Links (arity? : String → Option Arity) (power : Nat) :
    Expr → List Token → Expr → List Token → Prop
  | refl {e : Expr} {ts : List Token} : Links arity? power e ts e ts
  | link {e left left' : Expr} {ts mid mid' : List Token} : Links arity? power e ts left mid →
      power < Token.nextPower mid → Extension (Reads arity?) left mid left' mid' →
      Links arity? power e ts left' mid'

theorem Reaches.links (h : Reaches arity? power ts left mid) (hlinks : Links arity? power left mid e rest) :
    Reaches arity? power ts e rest := by
  induction hlinks with
  | refl => exact h
  | link _ hpower hext ih => exact .link (ih h) hpower hext

variable {r : Registry}

/-- A step that binds stronger than a filter can be taken from any expression, and its results depend
on the results of that expression only. -/
theorem Extension.behind (h : Extension S left ts e rest)
    (hpower : Token.filter.power < Token.nextPower ts) :
    ∃ step, Expr.Behind r left step e ∧
      ∀ x, ∃ x', Extension S x ts x' rest ∧ Expr.Behind r x step x' := by
  cases h with
  | values h =>
    exact ⟨_, Expr.behind_project .values left _, fun x => ⟨_, .values h, Expr.behind_project ..⟩⟩
  | subexpr hstar h =>
    exact ⟨_, Expr.behind_subexpr left _, fun x => ⟨_, .subexpr hstar h, Expr.behind_subexpr ..⟩⟩
  | bracketed h =>
    cases h with
    | @index n =>
      exact ⟨_, Expr.behind_indexed left n, fun x =>
        ⟨_, .bracketed .index, Expr.behind_indexed x n⟩⟩
    | list h =>
      exact ⟨_, Expr.behind_project .list left _, fun x =>
        ⟨_, .bracketed (.list h), Expr.behind_project ..⟩⟩
    | slice hzero h =>
      exact ⟨_, Expr.behind_project _ left _, fun x =>
        ⟨_, .bracketed (.slice hzero h), Expr.behind_project ..⟩⟩
  | flatten | filter | pipe | resembles => exact absurd hpower (by simp [Token.power])
  | @binary t _ _ _ _ hop =>
    cases t with
    | or | and | eq | ne | lt | le | gt | ge => exact absurd hpower (by simp [Token.power])
    | _ => cases hop

/-- Further steps lead from `left` to `e`; a token that is weaker than a filter can take them from
any expression, and their results depend on the results of that expression only. -/
def Onward (r : Registry) (mid : List Token) (left e : Expr) (rest : List Token) : Prop :=
  ∃ step, Expr.Behind r left step e ∧ ∀ power < Token.filter.power, ∀ x, ∃ x',
    Links r.arity? power x mid x' rest ∧ Expr.Behind r x step x'

theorem Onward.link (h : Onward r mid left e rest) (hpower : Token.filter.power < Token.nextPower rest)
    (hext : Extension (Reads r.arity?) e rest e' mid') : Onward r mid left e' mid' := by
  obtain ⟨step, hstep, hlinks⟩ := h
  obtain ⟨next, hnext, hext⟩ := hext.behind hpower
  refine ⟨_, hstep.trans hnext, fun power hlt x => ?_⟩
  obtain ⟨x', hx, hstep⟩ := hlinks power hlt x
  obtain ⟨x'', hx', hnext⟩ := hext x'
  exact ⟨x'', .link hx (Nat.lt_trans hlt hpower) hx', hstep.trans hnext⟩

theorem Onward.congr (h : Onward r mid left e rest) (hleft : Expr.Alike r left left') :
    Onward r mid left' e rest := by
  obtain ⟨step, hstep, hlinks⟩ := h
  exact ⟨step, hstep.congr hleft, hlinks⟩

/-- The filter that is always true leads on as the projection of a list. -/
theorem Onward.of_true {rhs : Expr}
    (h : ∀ x, Extension (Reads r.arity?) x mid (.filter (.literal (.bool true)) x rhs) rest)
    (hpower : Token.nextPower mid = Token.filter.power) :
    Onward r mid left (.project .list left rhs) rest := by
  refine ⟨_, Expr.behind_project .list left rhs, fun power hlt x => ⟨_, .link .refl (by omega) (h x), ?_⟩⟩
  refine ⟨nofun, fun v => ?_⟩
  rw [Expr.filter_true]
  exact (Expr.behind_project .list x rhs).2 v

/-- Steps behind the right side of a dot lead on from the whole. -/
theorem Onward.subexpr (h : Onward r mid left e rest) (lhs : Expr) :
    Onward r mid (.subexpr lhs left) (.subexpr lhs e) rest := by
  obtain ⟨step, hstep, hlinks⟩ := h
  exact ⟨step, hstep.subexpr lhs, hlinks⟩

/-- A chain that is weaker than a filter takes further steps, to the same results. -/
theorem Onward.reaches (h : Onward r mid left e rest) (hlt : power < Token.filter.power)
    (hreach : Reaches r.arity? power ts left mid) :
    ∃ e', Reaches r.arity? power ts e' rest ∧ Expr.Alike r e e' := by
  obtain ⟨step, hstep, hlinks⟩ := h
  obtain ⟨e', hlink, hstep'⟩ := hlinks power hlt left
  exact ⟨e', hreach.links hlink, hstep.alike hstep'⟩

end JsonQuery.Grammar
