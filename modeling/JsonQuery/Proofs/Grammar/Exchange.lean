import JsonQuery.Proofs.Grammar.Links

/-!
# The filter that is always true in place of `[*]`

* `wildcard`, `always` — tokens that start with `[*]`, and with the filter that is always true.
* `Exchangeable` — `[*]` is taken as a projection of a list, and no `!` or filter of the same chain
  is in the way of a filter in its place.
* `Swap` — what is left to read in the two texts; `Onward` steps make up for a chain that the filter
  ends and `[*]` does not.
* `Reads.exchange` — both are read, as expressions with the same results.
-/

namespace JsonQuery.Grammar

/-- `[*]`, and what stands behind it. -/
def wildcard (post : List Token) : List Token := .openBracket :: .star :: .closeBracket :: post

/-- The filter that is always true, and what stands behind it. -/
def always (post : List Token) : List Token :=
  .filter :: .literal (.bool true) :: .closeBracket :: post

/-- The tokens make up the operand of a `!` that ends in front of a filter. -/
def Operand (arity? : String → Option Arity) (ts : List Token) : Prop :=
  ∃ operand, Reads arity? Token.not.power (ts ++ [.filter]) operand [.filter]

/-- Between tokens in front and tokens behind, `[*]` is a projection of a list, and a filter in its
place ends neither the operand of a `!` nor the right side of a filter, nor does another filter end
its own right side. -/
structure Exchangeable (arity? : String → Option Arity) (pre post : List Token) : Prop where
  undotted : ¬ [.dot] <:+ pre
  operand : ∀ more, .not :: more <:+ pre → ¬ Operand arity? more
  filtered : ∀ predicate more, .filter :: (predicate ++ .closeBracket :: more) <:+ pre →
    (∃ p, Reads arity? 0 (predicate ++ [.closeBracket]) p [.closeBracket]) → ¬ Side arity? more
  behind : ∀ more, more ++ [.filter] <+: post → ¬ Side arity? more

/-- Without `!` and filters, nothing is in the way. -/
theorem Exchangeable.of_plain {arity? : String → Option Arity} {pre post : List Token}
    (hdot : ¬ [.dot] <:+ pre) (hnot : .not ∉ pre) (hfilter : .filter ∉ pre)
    (hbehind : .filter ∉ post) : Exchangeable arity? pre post where
  undotted := hdot
  operand _ h := absurd (h.subset List.mem_cons_self) hnot
  filtered _ _ h := absurd (h.subset List.mem_cons_self) hfilter
  behind _ h := absurd (h.subset (by simp)) hbehind

/-! ## What is left to read -/

/-- What is left to read in the two texts: the same tokens, or a part of those in front and the tokens
from the place on. -/
inductive Swap (pre post : List Token) : List Token → List Token → Prop
  | same (ts : List Token) : Swap pre post ts ts
  | ahead {ts : List Token} : ts <:+ pre → Swap pre post (ts ++ wildcard post) (ts ++ always post)

variable {arity? : String → Option Arity} {pre post ts us mid rest : List Token} {t : Token}

theorem Swap.length_eq (h : Swap pre post ts us) : us.length = ts.length := by
  cases h with
  | same => rfl
  | ahead => simp [wildcard, always]

theorem Swap.nextPower_le (h : Swap pre post ts us) : Token.nextPower us ≤ Token.nextPower ts := by
  cases h with
  | same => exact Nat.le_refl _
  | @ahead ts _ =>
    rcases ts with _ | ⟨t, ts⟩
    · simp [wildcard, always, Token.power]
    · exact Nat.le_refl _

/-- What is left starts with a token of its own, with one in front of the place, or at the place. -/
theorem Swap.of_cons (h : Swap pre post (t :: ts) us) : us = t :: ts ∨
    (∃ front, t :: front <:+ pre ∧ ts = front ++ wildcard post ∧ us = t :: (front ++ always post)) ∨
    (t :: ts = wildcard post ∧ us = always post) := by
  generalize hts : t :: ts = ts' at h
  cases h with
  | same => exact .inl rfl
  | @ahead front hfront =>
    rcases front with _ | ⟨u, front⟩
    · exact .inr (.inr ⟨rfl, rfl⟩)
    · cases hts
      exact .inr (.inl ⟨front, hfront, rfl, rfl⟩)

theorem Swap.head (h : Swap pre post (t :: ts) us) :
    (∃ us', us = t :: us' ∧ Swap pre post ts us') ∨ (t :: ts = wildcard post ∧ us = always post) := by
  rcases h.of_cons with rfl | ⟨front, hfront, rfl, rfl⟩ | hplace
  · exact .inl ⟨ts, rfl, .same ts⟩
  · exact .inl ⟨_, rfl, .ahead ((List.suffix_cons t front).trans hfront)⟩
  · exact .inr hplace

theorem Swap.cons (h : Swap pre post (t :: ts) us) (ht : t ≠ .openBracket) :
    ∃ us', us = t :: us' ∧ Swap pre post ts us' := by
  refine h.head.resolve_right ?_
  rintro ⟨hts, _⟩
  cases hts
  exact ht rfl

/-- No token but that of a filter comes to stand first. -/
theorem Swap.ne_cons (h : Swap pre post ts us) (ht : t ≠ .filter) (hts : ∀ more, ts ≠ t :: more) :
    ∀ more, us ≠ t :: more := by
  intro more hmore
  cases h with
  | same => exact hts more hmore
  | @ahead front =>
    rcases front with _ | ⟨u, front⟩
    · cases hmore
      exact ht rfl
    · cases hmore
      exact hts _ rfl

/-- Behind a dot, the place is out of reach. -/
theorem Swap.behind_dot (h : Swap pre post (.dot :: t :: ts) us) (hdot : ¬ [.dot] <:+ pre) :
    ∃ us', us = .dot :: t :: us' ∧ Swap pre post ts us' := by
  rcases h.of_cons with rfl | ⟨front, hfront, hts, rfl⟩ | ⟨hts, _⟩
  · exact ⟨ts, rfl, .same ts⟩
  · rcases front with _ | ⟨u, front⟩
    · exact absurd hfront hdot
    · cases hts
      have hsuffix : front <:+ .dot :: t :: front :=
        (List.suffix_cons t front).trans (List.suffix_cons Token.dot _)
      exact ⟨_, rfl, .ahead (hsuffix.trans hfront)⟩
  · cases hts

theorem Swap.numberTokens {n : Option Int64} (h : Swap pre post (numberTokens n ++ ts) us) :
    ∃ us', us = Grammar.numberTokens n ++ us' ∧ Swap pre post ts us' := by
  cases n with
  | none => exact ⟨us, rfl, h⟩
  | some n => exact h.cons nofun

theorem Swap.stepTokens {n : Option (Option Int64)} (h : Swap pre post (stepTokens n ++ ts) us) :
    ∃ us', us = Grammar.stepTokens n ++ us' ∧ Swap pre post ts us' := by
  cases n with
  | none => exact ⟨us, rfl, h⟩
  | some n =>
    obtain ⟨_, rfl, hnumber⟩ := h.cons nofun
    obtain ⟨us', rfl, hbehind⟩ := hnumber.numberTokens
    exact ⟨us', rfl, hbehind⟩

theorem Swap.startsBracket (h : Swap pre post ts us) (hstarts : startsBracket ts = false) :
    Grammar.startsBracket us = false := by
  cases h with
  | same => exact hstarts
  | @ahead more =>
    rcases more with _ | ⟨t, _ | ⟨u, more⟩⟩
    · rfl
    · cases t <;> first | rfl | exact hstarts
    · cases t <;> cases u <;> first | rfl | exact hstarts

/-! ## What is read in the other text -/

/-- In the other text something related is read, up to the same place. -/
def Matched {α : Type} (pre post : List Token) (Q : α → α → Prop) (item : α → List Token → Prop)
    (a : α) (rest : List Token) : Prop :=
  ∃ a' rest', item a' rest' ∧ Swap pre post rest rest' ∧ Q a a'

theorem Matched.imp {α β : Type} {Q : α → α → Prop} {Q' : β → β → Prop} {a : α} {b : β}
    {item : α → List Token → Prop} {item' : β → List Token → Prop}
    (h : Matched pre post Q item a rest)
    (himp : ∀ {a' rest'}, item a' rest' → Q a a' → ∃ b', item' b' rest' ∧ Q' b b') :
    Matched pre post Q' item' b rest := by
  obtain ⟨a', rest', hitem, hrest, ha⟩ := h
  obtain ⟨b', hitem', hb⟩ := himp hitem ha
  exact ⟨b', rest', hitem', hrest, hb⟩

/-- In the other text a chain ends at the filter, and further steps lead on from there. -/
def Pending (r : Registry) (post : List Token) (power : Nat) (us : List Token) (e : Expr)
    (rest : List Token) : Prop :=
  Token.filter.power ≤ power ∧
    ∃ left, Reads r.arity? power us left (always post) ∧ Onward r (always post) left e rest

/-- What a reading becomes in the other text. -/
def Exchanged (r : Registry) (pre post : List Token) (power : Nat) (ts : List Token) (e : Expr)
    (rest : List Token) : Prop :=
  ∀ us, Swap pre post ts us →
    Matched pre post (Expr.Alike r) (Reads r.arity? power us) e rest ∨ Pending r post power us e rest

variable {r : Registry} {power : Nat} {e left left' : Expr}

/-- A chain that is weaker than a filter goes on behind it. -/
theorem exchanged_weak (h : readsWith r.arity? (Exchanged r pre post) power ts e rest)
    (hlt : power < Token.filter.power) (hswap : Swap pre post ts us) :
    Matched pre post (Expr.Alike r) (Reads r.arity? power us) e rest :=
  (h.2 us hswap).resolve_right fun hpending => Nat.not_le_of_lt hlt hpending.1

theorem Sequence.exchange {α : Type} {Q : α → α → Prop}
    {item item' : List Token → α → List Token → Prop} {close : Closing} {as : List α}
    (hitem : ∀ {ts us a rest}, item ts a rest → Swap pre post ts us →
      Matched pre post Q (item' us) a rest)
    (h : Sequence item close ts as rest) (hswap : Swap pre post ts us) :
    Matched pre post (List.Forall₂ Q) (Sequence item' close us) as rest := by
  induction h generalizing us with
  | @last ts a t rest h hclose =>
    obtain ⟨a', _, h', hend, ha⟩ := hitem h hswap
    have ht : t ≠ .openBracket := by
      rintro rfl
      cases close <;> cases hclose
    obtain ⟨rest', rfl, hrest⟩ := hend.cons ht
    exact ⟨[a'], rest', .last h' hclose, hrest, .cons ha .nil⟩
  | more h hlt _ ih =>
    obtain ⟨a', _, h', hcomma, ha⟩ := hitem h hswap
    obtain ⟨mid', rfl, hmid⟩ := hcomma.cons nofun
    obtain ⟨as', rest', hs, hrest, has⟩ := ih hmid
    exact ⟨a' :: as', rest', .more h' (by rw [hmid.length_eq, hswap.length_eq]; exact hlt) hs, hrest,
      .cons ha has⟩

theorem exchange_list {es : List Expr} {close : Closing}
    (h : Sequence (readsWith r.arity? (Exchanged r pre post) 0) close ts es rest)
    (hswap : Swap pre post ts us) :
    Matched pre post (List.Forall₂ (Expr.Alike r)) (Sequence (Reads r.arity? 0) close us) es rest :=
  h.exchange (fun h hswap => exchanged_weak h (by decide) hswap) hswap

theorem exchange_hash {ps : List (String × Expr)}
    (h : Sequence (Named (readsWith r.arity? (Exchanged r pre post))) .brace ts ps rest)
    (hswap : Swap pre post ts us) :
    Matched pre post (List.Forall₂ fun p p' => p.1 = p'.1 ∧ Expr.Alike r p.2 p'.2)
      (Sequence (Named (Reads r.arity?)) .brace us) ps rest := by
  refine h.exchange (fun h hswap => ?_) hswap
  cases h with
  | @identifier key _ _ _ h =>
    obtain ⟨_, rfl, hcolon⟩ := hswap.cons nofun
    obtain ⟨_, rfl, hvalue⟩ := hcolon.cons nofun
    exact (exchanged_weak h (by decide) hvalue).imp fun h he => ⟨(key, _), .identifier h, rfl, he⟩
  | @quoted key _ _ _ h =>
    obtain ⟨_, rfl, hcolon⟩ := hswap.cons nofun
    obtain ⟨_, rfl, hvalue⟩ := hcolon.cons nofun
    exact (exchanged_weak h (by decide) hvalue).imp fun h he => ⟨(key, _), .quoted h, rfl, he⟩

theorem Arguments.exchange {args : List Expr}
    (h : Arguments (readsWith r.arity? (Exchanged r pre post)) ts args rest)
    (hswap : Swap pre post ts us) :
    Matched pre post (List.Forall₂ (Expr.Alike r)) (Arguments (Reads r.arity?) us) args rest := by
  cases h with
  | none =>
    obtain ⟨rest', rfl, hrest⟩ := hswap.cons nofun
    exact ⟨[], rest', .none, hrest, .nil⟩
  | some hparen h =>
    exact (exchange_list h hswap).imp fun h hargs => ⟨_, .some (hswap.ne_cons nofun hparen) h, hargs⟩

section Parts

variable (hplace : Exchangeable r.arity? pre post)
include hplace

theorem AfterDot.exchange (h : AfterDot (readsWith r.arity? (Exchanged r pre post)) power ts e rest)
    (hswap : Swap pre post (.dot :: ts) (.dot :: us)) :
    Matched pre post (Expr.Alike r) (AfterDot (Reads r.arity?) power us) e rest ∨
      Token.filter.power ≤ power ∧ ∃ left, AfterDot (Reads r.arity?) power us left (always post) ∧
        Onward r (always post) left e rest := by
  cases h with
  | list h =>
    obtain ⟨_, hus, hbody⟩ := hswap.behind_dot hplace.undotted
    cases hus
    exact .inl ((exchange_list h hbody).imp fun h hes => ⟨_, .list h, .multiList hes⟩)
  | hash h =>
    obtain ⟨_, hus, hbody⟩ := hswap.behind_dot hplace.undotted
    cases hus
    exact .inl ((exchange_hash h hbody).imp fun h hps => ⟨_, .hash h, .multiHash hps⟩)
  | @step t _ _ _ ht h =>
    have hbracket : t ≠ .openBracket := by
      rintro rfl
      cases ht
    obtain ⟨_, hus, hbehind⟩ := hswap.cons nofun
    cases hus
    obtain ⟨us', rfl, _⟩ := hbehind.cons hbracket
    rcases h.2 _ hbehind with h | ⟨hle, left, h, honward⟩
    · exact .inl (h.imp fun h he => ⟨_, .step ht h, he⟩)
    · exact .inr ⟨hle, left, .step ht h, honward⟩

/-- A right side in the other text, unless the filter ends it. -/
theorem Projected.exchange (h : Projected (readsWith r.arity? (Exchanged r pre post)) power ts e rest)
    (hswap : Swap pre post ts us) :
    Matched pre post (Expr.Alike r) (Projected (Reads r.arity?) power us) e rest ∨
      Token.filter.power ≤ power ∧ ∃ left, Projected (Reads r.arity?) power us left (always post) := by
  cases h with
  | none hstop =>
    exact .inl ⟨_, us, .none (Nat.lt_of_le_of_lt hswap.nextPower_le hstop), hswap, .refl _⟩
  | dot h =>
    obtain ⟨us', rfl, _⟩ := hswap.cons nofun
    rcases h.exchange hplace hswap with h | ⟨hle, left, h, _⟩
    · exact .inl (h.imp fun h he => ⟨_, .dot h, he⟩)
    · exact .inr ⟨hle, left, .dot h⟩
  | bracket h =>
    have hbracket : ∀ {e rest}, Reads r.arity? power us e rest →
        Projected (Reads r.arity?) power us e rest := by
      intro e rest h
      rcases hswap.head with ⟨_, rfl, _⟩ | ⟨_, rfl⟩
      · exact .bracket h
      · exact .filter h
    rcases h.2 us hswap with h | ⟨hle, left, h, _⟩
    · exact .inl (h.imp fun h he => ⟨_, hbracket h, he⟩)
    · exact .inr ⟨hle, left, hbracket h⟩
  | filter h =>
    obtain ⟨us', rfl, _⟩ := hswap.cons nofun
    rcases h.2 _ hswap with h | ⟨hle, left, h, _⟩
    · exact .inl (h.imp fun h he => ⟨_, .filter h, he⟩)
    · exact .inr ⟨hle, left, .filter h⟩

/-- The right side of a projection that binds weaker than a filter. -/
theorem Projected.exchange_weak
    (h : Projected (readsWith r.arity? (Exchanged r pre post)) power ts e rest)
    (hlt : power < Token.filter.power) (hswap : Swap pre post ts us) :
    Matched pre post (Expr.Alike r) (Projected (Reads r.arity?) power us) e rest :=
  (h.exchange hplace hswap).resolve_right fun hside => Nat.not_le_of_lt hlt hside.1

theorem Bracketed.exchange (h : Bracketed (readsWith r.arity? (Exchanged r pre post)) left ts e rest)
    (hswap : Swap pre post ts us) (hleft : Expr.Alike r left left') :
    Matched pre post (Expr.Alike r) (Bracketed (Reads r.arity?) left' us) e rest := by
  cases h with
  | @index n =>
    obtain ⟨_, rfl, hclose⟩ := hswap.cons nofun
    obtain ⟨rest', rfl, hrest⟩ := hclose.cons nofun
    exact ⟨_, rest', .index, hrest, .indexed hleft⟩
  | list h =>
    obtain ⟨_, rfl, hclose⟩ := hswap.cons nofun
    obtain ⟨_, rfl, hbehind⟩ := hclose.cons nofun
    exact (h.exchange_weak hplace (by decide) hbehind).imp fun h hrhs =>
      ⟨_, .list h, .project hleft hrhs⟩
  | slice hzero h =>
    obtain ⟨_, rfl, hcolon⟩ := hswap.numberTokens
    obtain ⟨_, rfl, hstop⟩ := hcolon.cons nofun
    obtain ⟨_, rfl, hsteps⟩ := hstop.numberTokens
    obtain ⟨_, rfl, hclose⟩ := hsteps.stepTokens
    obtain ⟨_, rfl, hbehind⟩ := hclose.cons nofun
    exact (h.exchange_weak hplace (by decide) hbehind).imp fun h hrhs =>
      ⟨_, .slice hzero h, .project hleft hrhs⟩

/-- A filter whose right side would end at the place is ruled out. -/
theorem Filtered.exchange (h : Filtered (readsWith r.arity? (Exchanged r pre post)) left ts e rest)
    (hswap : Swap pre post (.filter :: ts) (.filter :: us)) (hleft : Expr.Alike r left left') :
    Matched pre post (Expr.Alike r) (Filtered (Reads r.arity?) left' us) e rest := by
  obtain ⟨hpredicate, hrhs⟩ := h
  rcases hswap.of_cons with hus | ⟨front, hfront, rfl, hus⟩ | ⟨hts, _⟩
  · cases hus
    exact ⟨_, rest, .mk hpredicate.1 (hrhs.imp fun h => h.1), .same rest,
      .filter (.refl _) hleft (.refl _)⟩
  · cases hus
    have hbehind : Swap pre post (front ++ wildcard post) (front ++ always post) :=
      .ahead ((List.suffix_cons _ front).trans hfront)
    obtain ⟨_, _, hpredicate', hclose, hp⟩ := exchanged_weak hpredicate (by decide) hbehind
    obtain ⟨mid', rfl, hmid⟩ := hclose.cons nofun
    rcases hrhs.exchange hplace hmid with hrhs' | ⟨_, rhs, hrhs'⟩
    · exact hrhs'.imp fun hrhs' hrhs => ⟨_, .mk hpredicate' hrhs', .filter hp hleft hrhs⟩
    · obtain ⟨t, body, heq, hbody⟩ := Reads.local hpredicate'
      obtain ⟨more, rfl, hside⟩ := hrhs'.side
      have hfront' : front = (t :: body) ++ .closeBracket :: more :=
        List.append_cancel_right (by simpa [always] using heq)
      subst hfront'
      exact absurd hside (hplace.filtered (t :: body) more hfront ⟨_, hbody _ (Nat.le_refl _)⟩)
  · cases hts

/-- What is projected behind `[*]` is projected behind the filter. -/
theorem Filtered.of_true
    (hrhs : Projected (readsWith r.arity? (Exchanged r pre post)) Token.star.power post e rest)
    (left : Expr) :
    Filtered (Reads r.arity?) left (.literal (.bool true) :: .closeBracket :: post)
      (.filter (.literal (.bool true)) left e) rest := by
  have hpredicate : Reads r.arity? 0 (.literal (.bool true) :: .closeBracket :: post)
      (.literal (.bool true)) (.closeBracket :: post) :=
    reads_iff.2 ⟨.start .literal, Nat.le_refl 0⟩
  exact .mk hpredicate ((hrhs.imp fun h => h.1).at_filter hplace.behind)

/-- A `!` whose operand would end at the place is ruled out. -/
theorem exchange_operand
    (h : readsWith r.arity? (Exchanged r pre post) Token.not.power ts e rest)
    (hswap : Swap pre post (.not :: ts) (.not :: us)) :
    Matched pre post (Expr.Alike r) (Reads r.arity? Token.not.power us) e rest := by
  rcases hswap.of_cons with hus | ⟨front, hfront, rfl, hus⟩ | ⟨hts, _⟩
  · cases hus
    exact ⟨e, rest, h.1, .same rest, .refl e⟩
  · cases hus
    refine (h.2 _ (.ahead ((List.suffix_cons _ front).trans hfront))).resolve_right ?_
    rintro ⟨_, left, hread, _⟩
    obtain ⟨t, body, heq, hbody⟩ := Reads.local hread
    have hfront' : front = t :: body := List.append_cancel_right heq
    subst hfront'
    exact hplace.operand _ hfront ⟨left, hbody _ (Nat.le_refl _)⟩
  · cases hts

theorem Primary.exchange (hr : r.Respects)
    (h : Primary r.arity? (readsWith r.arity? (Exchanged r pre post)) ts e rest)
    (hswap : Swap pre post ts us) :
    Matched pre post (Expr.Alike r) (Primary r.arity? (Reads r.arity?) us) e rest := by
  cases h with
  | current =>
    obtain ⟨rest', rfl, hrest⟩ := hswap.cons nofun
    exact ⟨_, rest', .current, hrest, .refl _⟩
  | identifier hparen =>
    obtain ⟨rest', rfl, hrest⟩ := hswap.cons nofun
    exact ⟨_, rest', .identifier (hrest.ne_cons nofun hparen), hrest, .refl _⟩
  | call harity haccepts h =>
    obtain ⟨_, rfl, hparen⟩ := hswap.cons nofun
    obtain ⟨_, rfl, hargs⟩ := hparen.cons nofun
    refine (h.exchange hargs).imp fun h hargs => ⟨_, .call harity ?_ h, .call hr hargs⟩
    rw [← hargs.length_eq]
    exact haccepts
  | quoted hparen =>
    obtain ⟨rest', rfl, hrest⟩ := hswap.cons nofun
    exact ⟨_, rest', .quoted (hrest.ne_cons nofun hparen), hrest, .refl _⟩
  | raw =>
    obtain ⟨rest', rfl, hrest⟩ := hswap.cons nofun
    exact ⟨_, rest', .raw, hrest, .refl _⟩
  | literal =>
    obtain ⟨rest', rfl, hrest⟩ := hswap.cons nofun
    exact ⟨_, rest', .literal, hrest, .refl _⟩
  | values h =>
    obtain ⟨_, rfl, hbehind⟩ := hswap.cons nofun
    exact (h.exchange_weak hplace (by decide) hbehind).imp fun h hrhs =>
      ⟨_, .values h, .project (.refl _) hrhs⟩
  | bracketed h =>
    rcases hswap.head with ⟨_, rfl, hbehind⟩ | ⟨hts, rfl⟩
    · exact (h.exchange hplace hbehind (.refl _)).imp fun h he => ⟨_, .bracketed h, he⟩
    · cases hts
      obtain ⟨rhs, rfl, hrhs⟩ := h.of_star
      exact ⟨_, rest, .filter (.of_true hplace hrhs _), .same rest, .filter_true⟩
  | multiList hbracket h =>
    rcases hswap.head with ⟨_, rfl, hbehind⟩ | ⟨hts, _⟩
    · exact (exchange_list h hbehind).imp fun h hes =>
        ⟨_, .multiList (hbehind.startsBracket hbracket) h, .multiList hes⟩
    · cases hts
      cases hbracket
  | flatten h =>
    obtain ⟨_, rfl, hbehind⟩ := hswap.cons nofun
    exact (h.exchange_weak hplace (by decide) hbehind).imp fun h hrhs =>
      ⟨_, .flatten h, .project (.refl _) hrhs⟩
  | filter h =>
    obtain ⟨_, rfl, _⟩ := hswap.cons nofun
    exact (h.exchange hplace hswap (.refl _)).imp fun h he => ⟨_, .filter h, he⟩
  | multiHash h =>
    obtain ⟨_, rfl, hbehind⟩ := hswap.cons nofun
    exact (exchange_hash h hbehind).imp fun h hps => ⟨_, .multiHash h, .multiHash hps⟩
  | reference h =>
    obtain ⟨_, rfl, hbehind⟩ := hswap.cons nofun
    exact (exchanged_weak h (by decide) hbehind).imp fun h he => ⟨_, .reference h, .referenceTo he⟩
  | not h =>
    obtain ⟨_, rfl, _⟩ := hswap.cons nofun
    exact (exchange_operand hplace h hswap).imp fun h he => ⟨_, .not h, .not he⟩
  | group h =>
    obtain ⟨_, rfl, hbehind⟩ := hswap.cons nofun
    obtain ⟨e', _, h, hclose, he⟩ := exchanged_weak h (by decide) hbehind
    obtain ⟨rest', rfl, hrest⟩ := hclose.cons nofun
    exact ⟨e', rest', .group h, hrest, he⟩

/-- A step in the other text: a step of its own; the place, where further steps lead on; or a dot
whose right side ends at the place. -/
theorem Extension.exchange (h : Extension (readsWith r.arity? (Exchanged r pre post)) left ts e rest)
    (hswap : Swap pre post ts us) (hleft : Expr.Alike r left left') :
    Matched pre post (Expr.Alike r) (Extension (Reads r.arity?) left' us) e rest ∧
        Token.nextPower us = Token.nextPower ts ∨
      us = always post ∧ Onward r (always post) left e rest ∨
      Token.nextPower us = Token.nextPower ts ∧ ∃ rhs,
        (∀ x, Extension (Reads r.arity?) x us (.subexpr x rhs) (always post)) ∧
          Onward r (always post) (.subexpr left rhs) e rest := by
  cases h with
  | values h =>
    obtain ⟨_, rfl, hstar⟩ := hswap.cons nofun
    obtain ⟨_, rfl, hbehind⟩ := hstar.cons nofun
    exact .inl ⟨(h.exchange_weak hplace (by decide) hbehind).imp fun h hrhs =>
      ⟨_, .values h, .project hleft hrhs⟩, rfl⟩
  | subexpr hstar h =>
    obtain ⟨us, rfl, hbehind⟩ := hswap.cons nofun
    have hstar' : ∀ more, us ≠ .star :: more := hbehind.ne_cons nofun hstar
    rcases h.exchange hplace hswap with h | ⟨_, rhs, h, honward⟩
    · exact .inl ⟨h.imp fun h hrhs => ⟨_, .subexpr hstar' h, .subexpr hleft hrhs⟩, rfl⟩
    · exact .inr (.inr ⟨rfl, rhs, fun x => .subexpr hstar' h, honward.subexpr left⟩)
  | bracketed h =>
    rcases hswap.head with ⟨_, rfl, hbehind⟩ | ⟨hts, rfl⟩
    · exact .inl ⟨(h.exchange hplace hbehind hleft).imp fun h he => ⟨_, .bracketed h, he⟩, rfl⟩
    · cases hts
      obtain ⟨rhs, rfl, hrhs⟩ := h.of_star
      exact .inr (.inl ⟨rfl, .of_true (fun x => .filter (.of_true hplace hrhs x)) rfl⟩)
  | flatten h =>
    obtain ⟨_, rfl, hbehind⟩ := hswap.cons nofun
    exact .inl ⟨(h.exchange_weak hplace (by decide) hbehind).imp fun h hrhs =>
      ⟨_, .flatten h, .project hleft hrhs⟩, rfl⟩
  | filter h =>
    obtain ⟨_, rfl, _⟩ := hswap.cons nofun
    exact .inl ⟨(h.exchange hplace hswap hleft).imp fun h he => ⟨_, .filter h, he⟩, rfl⟩
  | pipe h =>
    obtain ⟨_, rfl, hbehind⟩ := hswap.cons nofun
    exact .inl ⟨(exchanged_weak h (by decide) hbehind).imp fun h he =>
      ⟨_, .pipe h, .pipe hleft he⟩, rfl⟩
  | resembles hregex =>
    obtain ⟨_, rfl, hpattern⟩ := hswap.cons nofun
    obtain ⟨rest', rfl, hrest⟩ := hpattern.cons nofun
    exact .inl ⟨⟨_, rest', .resembles hregex, hrest, .resembles hleft⟩, rfl⟩
  | @binary t op _ _ _ hop h =>
    have hbracket : t ≠ .openBracket := by
      rintro rfl
      cases hop
    obtain ⟨_, rfl, hbehind⟩ := hswap.cons hbracket
    have hlt : op.power < Token.filter.power := by cases op <;> decide
    exact .inl ⟨(exchanged_weak h hlt hbehind).imp fun h he =>
      ⟨_, .binary hop h, .binary hleft he⟩, rfl⟩

end Parts

/-! ## Whole readings -/

/-- A chain that has come to the filter goes on behind it, or ends there if it is stronger. -/
theorem Onward.reached (h : Onward r (always post) left e rest)
    (hreach : Reaches r.arity? power us left (always post)) :
    Matched pre post (Expr.Alike r) (Reaches r.arity? power us) e rest ∨
      Pending r post power us e rest := by
  by_cases hlt : power < Token.filter.power
  · obtain ⟨e', hreach', he⟩ := h.reaches hlt hreach
    exact .inl ⟨e', rest, hreach', .same rest, he⟩
  · have hle : Token.filter.power ≤ power := Nat.le_of_not_lt hlt
    exact .inr ⟨hle, left, reads_iff.2 ⟨hreach, hle⟩, h⟩

/-- **The filter that is always true in place of `[*]`**: the same is read, or the chain ends at the
filter and further steps lead on from there. -/
theorem Reads.exchange (hr : r.Respects) (hplace : Exchangeable r.arity? pre post)
    (h : Reads r.arity? power ts e rest) : Exchanged r pre post power ts e rest := by
  refine reads_induction
    (C := fun power ts left mid => ∀ us, Swap pre post ts us →
      Matched pre post (Expr.Alike r) (Reaches r.arity? power us) left mid ∨
        Pending r post power us left mid)
    ?start ?step ?stop h
  case start =>
    intro power ts left mid h us hswap
    exact .inl ((h.exchange hplace hr hswap).imp fun h he => ⟨_, .start h, he⟩)
  case step =>
    -- behind the place, a chain is matched, or what it has taken since then leads on from the filter
    intro power ts left mid e rest _ hC hpower h us hswap
    rcases hC us hswap with ⟨left', mid', hreach, hmid, hleft⟩ | ⟨hle, left', hread, honward⟩
    · rcases h.exchange hplace hmid hleft with ⟨h, hnext⟩ | ⟨rfl, honward⟩ | ⟨hnext, rhs, hext, honward⟩
      · exact .inl (h.imp fun h he => ⟨_, .link hreach (by omega) h, he⟩)
      · exact (honward.congr hleft).reached hreach
      · exact (honward.congr (.subexpr hleft (.refl rhs))).reached
          (.link hreach (by omega) (hext left'))
    · exact .inr ⟨hle, left', hread, honward.link (by omega) (h.imp fun h => h.1)⟩
  case stop =>
    intro power ts e rest hC hpower us hswap
    refine (hC us hswap).imp_left ?_
    rintro ⟨e', rest', hreach, hrest, he⟩
    exact ⟨e', rest', reads_iff.2 ⟨hreach, Nat.le_trans hrest.nextPower_le hpower⟩, hrest, he⟩

/-- Whole expressions have the same results. -/
theorem Reads.exchange_whole (hr : r.Respects) (hplace : Exchangeable r.arity? pre post)
    (h : Reads r.arity? 0 (pre ++ wildcard post) e []) :
    ∃ e', Reads r.arity? 0 (pre ++ always post) e' [] ∧ Expr.Alike r e e' := by
  have hswap : Swap pre post (pre ++ wildcard post) (pre ++ always post) :=
    .ahead List.suffix_rfl
  obtain ⟨e', rest', hread, hrest, he⟩ :=
    exchanged_weak ⟨h, h.exchange hr hplace⟩ (by decide) hswap
  obtain rfl : rest' = [] := List.eq_nil_of_length_eq_zero hrest.length_eq
  exact ⟨e', hread, he⟩

end JsonQuery.Grammar
