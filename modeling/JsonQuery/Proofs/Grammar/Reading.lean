import JsonQuery.Expr.Grammar

/-!
# Successful readings

What the grammar accepts, with one rule for each way to succeed.  The rules take the readings of
nested expressions as a relation, so that they can be combined with whatever else is known of those.

* `Sequence`, `Named`, `AfterDot`, `Projected`, `Bracketed`, `Filtered`, `Arguments` — the parts.
* `Primary`, `Extension` — how an expression starts, and how a token takes it further.
* `primary_ok`, `extend_ok` — the functions of the grammar succeed exactly by these rules.
-/

namespace JsonQuery.Grammar

/-- A relation between a power, tokens, the expression read from them and the tokens behind it. -/
abbrev Reading := Nat → List Token → Expr → List Token → Prop

/-- The successful readings of a reader. -/
def readings (sub : Reader) : Reading := fun power ts e rest => sub power ts = .ok (e, rest)

/-! ## Rules -/

/-- Items with commas between them, and the end. -/
inductive Sequence {α : Type} (item : List Token → α → List Token → Prop) (close : Closing) :
    List Token → List α → List Token → Prop
  | last {ts a t rest} : item ts a (t :: rest) → close.isEnd t = true → Sequence item close ts [a] rest
  | more {ts a mid as rest} : item ts a (.comma :: mid) → mid.length < ts.length →
      Sequence item close mid as rest → Sequence item close ts (a :: as) rest

/-- A key, a colon and an expression. -/
inductive Named (S : Reading) : List Token → String × Expr → List Token → Prop
  | identifier {key ts e rest} : S 0 ts e rest →
      Named S (.identifier key :: .colon :: ts) (key, e) rest
  | quoted {key ts e rest} : S 0 ts e rest → Named S (.quoted key :: .colon :: ts) (key, e) rest

/-- The tokens that start an expression behind a dot. -/
def startsStep : Token → Bool
  | .identifier _ | .quoted _ | .star => true
  | _ => false

/-- What may stand behind a dot. -/
inductive AfterDot (S : Reading) (power : Nat) : List Token → Expr → List Token → Prop
  | list {ts es rest} : Sequence (S 0) .bracket ts es rest →
      AfterDot S power (.openBracket :: ts) (.multiList es) rest
  | hash {ts ps rest} : Sequence (Named S) .brace ts ps rest →
      AfterDot S power (.openBrace :: ts) (.multiHash ps) rest
  | step {t ts e rest} : startsStep t = true → S power (t :: ts) e rest →
      AfterDot S power (t :: ts) e rest

/-- The right side of a projection. -/
inductive Projected (S : Reading) (power : Nat) : List Token → Expr → List Token → Prop
  | none {ts} : Token.nextPower ts < projectionStop → Projected S power ts .current ts
  | dot {ts e rest} : AfterDot S power ts e rest → Projected S power (.dot :: ts) e rest
  | bracket {ts e rest} : S power (.openBracket :: ts) e rest →
      Projected S power (.openBracket :: ts) e rest
  | filter {ts e rest} : S power (.filter :: ts) e rest →
      Projected S power (.filter :: ts) e rest

/-- The tokens of an optional number. -/
def numberTokens : Option Int64 → List Token
  | some n => [.number n]
  | none => []

/-- The tokens of an optional step, which may be a colon alone. -/
def stepTokens : Option (Option Int64) → List Token
  | some step => .colon :: numberTokens step
  | none => []

/-- An index, a list projection or a slice, behind the opening bracket. -/
inductive Bracketed (S : Reading) (lhs : Expr) : List Token → Expr → List Token → Prop
  | index {n rest} : Bracketed S lhs (.number n :: .closeBracket :: rest) (indexed lhs n) rest
  | list {ts rhs rest} : Projected S Token.star.power ts rhs rest →
      Bracketed S lhs (.star :: .closeBracket :: ts) (.project .list lhs rhs) rest
  | slice {start stop step ts rhs rest} : step ≠ some (some 0) →
      Projected S Token.star.power ts rhs rest →
      Bracketed S lhs
        (numberTokens start ++ .colon :: (numberTokens stop ++ (stepTokens step ++ .closeBracket :: ts)))
        (.project (.slice ⟨start, stop, step.join.getD 1⟩) lhs rhs) rest

/-- A filter, behind its opening sign. -/
inductive Filtered (S : Reading) (lhs : Expr) : List Token → Expr → List Token → Prop
  | mk {ts predicate mid rhs rest} : S 0 ts predicate (.closeBracket :: mid) →
      Projected S Token.filter.power mid rhs rest →
      Filtered S lhs ts (.filter predicate lhs rhs) rest

/-- The arguments of a call, behind the opening parenthesis. -/
inductive Arguments (S : Reading) : List Token → List Expr → List Token → Prop
  | none {rest} : Arguments S (.closeParen :: rest) [] rest
  | some {ts args rest} : (∀ more, ts ≠ .closeParen :: more) → Sequence (S 0) .paren ts args rest →
      Arguments S ts args rest

/-- Whether tokens behind an opening bracket make it an index, a slice or a list projection. -/
def startsBracket : List Token → Bool
  | .number _ :: _ | .colon :: _ | .star :: .closeBracket :: _ => true
  | _ => false

/-- How an expression starts. -/
inductive Primary (arity? : String → Option Arity) (S : Reading) :
    List Token → Expr → List Token → Prop
  | current {ts} : Primary arity? S (.current :: ts) .current ts
  | identifier {name ts} : (∀ more, ts ≠ .openParen :: more) →
      Primary arity? S (.identifier name :: ts) (.identifier name) ts
  | call {name arity args ts rest} : arity? name = some arity →
      arity.accepts args.length = true → Arguments S ts args rest →
      Primary arity? S (.identifier name :: .openParen :: ts) (.call name args) rest
  | quoted {name ts} : (∀ more, ts ≠ .openParen :: more) →
      Primary arity? S (.quoted name :: ts) (.identifier name) ts
  | raw {s ts} : Primary arity? S (.raw s :: ts) (.literal (.string s)) ts
  | literal {v ts} : Primary arity? S (.literal v :: ts) (.literal v) ts
  | values {ts rhs rest} : Projected S Token.star.power ts rhs rest →
      Primary arity? S (.star :: ts) (.project .values .current rhs) rest
  | bracketed {ts e rest} : Bracketed S .current ts e rest →
      Primary arity? S (.openBracket :: ts) e rest
  | multiList {ts es rest} : startsBracket ts = false → Sequence (S 0) .bracket ts es rest →
      Primary arity? S (.openBracket :: ts) (.multiList es) rest
  | flatten {ts rhs rest} : Projected S Token.flatten.power ts rhs rest →
      Primary arity? S (.flatten :: ts) (.project .flatten .current rhs) rest
  | filter {ts e rest} : Filtered S .current ts e rest → Primary arity? S (.filter :: ts) e rest
  | multiHash {ts ps rest} : Sequence (Named S) .brace ts ps rest →
      Primary arity? S (.openBrace :: ts) (.multiHash ps) rest
  | reference {ts body rest} : S 0 ts body rest →
      Primary arity? S (.ampersand :: ts) (.reference body) rest
  | not {ts operand rest} : S Token.not.power ts operand rest →
      Primary arity? S (.not :: ts) (.not operand) rest
  | group {ts e rest} : S 0 ts e (.closeParen :: rest) → Primary arity? S (.openParen :: ts) e rest

/-- How the next token takes the expression before it further. -/
inductive Extension (S : Reading) (left : Expr) : List Token → Expr → List Token → Prop
  | values {ts rhs rest} : Projected S Token.star.power ts rhs rest →
      Extension S left (.dot :: .star :: ts) (.project .values left rhs) rest
  | subexpr {ts rhs rest} : (∀ more, ts ≠ .star :: more) → AfterDot S Token.dot.power ts rhs rest →
      Extension S left (.dot :: ts) (.subexpr left rhs) rest
  | bracketed {ts e rest} : Bracketed S left ts e rest → Extension S left (.openBracket :: ts) e rest
  | flatten {ts rhs rest} : Projected S Token.flatten.power ts rhs rest →
      Extension S left (.flatten :: ts) (.project .flatten left rhs) rest
  | filter {ts e rest} : Filtered S left ts e rest → Extension S left (.filter :: ts) e rest
  | pipe {ts rhs rest} : S Token.pipe.power ts rhs rest →
      Extension S left (.pipe :: ts) (.pipe left rhs) rest
  | resembles {pattern regex ts} : Regex.compile? pattern = some regex →
      Extension S left (.resembles :: .raw pattern :: ts) (.resembles regex left) ts
  | binary {t op ts rhs rest} : binaryOp? t = some op → S op.power ts rhs rest →
      Extension S left (t :: ts) (.binary op left rhs) rest

/-! ## The functions succeed by the rules -/

variable {sub : Reader} {arity? : String → Option Arity} {power : Nat} {ts rest : List Token}
  {e left lhs : Expr}

theorem items_ok {α : Type} {item : List Token → Parsed α} {close : Closing} :
    ∀ {ts : List Token} {as : List α}, items item close ts = .ok (as, rest) ↔
      Sequence (fun ts a rest => item ts = .ok (a, rest)) close ts as rest := by
  intro ts as
  constructor
  · intro h
    fun_induction items item close ts generalizing as with
    | case3 ts a mid hlt as' rest' hrest hitem ih =>
      cases h
      exact .more hitem hlt (ih hrest)
    | case5 ts a t rest' _ hclose hitem =>
      cases h
      exact .last hitem hclose
    | _ => cases h
  · intro h
    induction h with
    | @last ts a t rest hitem hclose =>
      rw [items, hitem]
      cases t <;> simp_all [Closing.isEnd]
    | more hitem hlt _ ih =>
      rw [items, hitem]
      simp only [hlt, if_true, ih]

theorem pair_ok {p : String × Expr} :
    pair sub ts = .ok (p, rest) ↔ Named (readings sub) ts p rest := by
  constructor
  · intro h
    unfold pair at h
    split at h
    · rename_i key mid
      unfold pair.value at h
      split at h
      · split at h
        · cases h
        · rename_i hsub
          cases h
          exact .identifier hsub
      · cases h
    · rename_i key mid
      unfold pair.value at h
      split at h
      · split at h
        · cases h
        · rename_i hsub
          cases h
          exact .quoted hsub
      · cases h
    · cases h
  · rintro (h | h) <;> simp only [pair, pair.value, show sub 0 _ = _ from h]

theorem multiList_ok :
    multiList sub ts = .ok (e, rest) ↔
      ∃ es, e = .multiList es ∧ Sequence (readings sub 0) .bracket ts es rest := by
  unfold multiList
  constructor
  · intro h
    split at h
    · cases h
    · rename_i hitems
      cases h
      exact ⟨_, rfl, items_ok.1 hitems⟩
  · rintro ⟨es, rfl, h⟩
    rw [items_ok.2 h]

theorem multiHash_ok :
    multiHash sub ts = .ok (e, rest) ↔
      ∃ ps, e = .multiHash ps ∧ Sequence (Named (readings sub)) .brace ts ps rest := by
  have hnamed : (fun ts p rest => pair sub ts = .ok (p, rest)) = Named (readings sub) := by
    funext ts p rest
    exact propext pair_ok
  unfold multiHash
  constructor
  · intro h
    split at h
    · cases h
    · rename_i hitems
      cases h
      exact ⟨_, rfl, hnamed ▸ items_ok.1 hitems⟩
  · rintro ⟨ps, rfl, h⟩
    rw [items_ok.2 (hnamed ▸ h)]

theorem arguments_ok {args : List Expr} :
    arguments sub ts = .ok (args, rest) ↔ Arguments (readings sub) ts args rest := by
  unfold arguments
  constructor
  · intro h
    split at h
    · cases h
      exact .none
    · rename_i hparen
      exact .some (fun more hmore => hparen more hmore) (items_ok.1 h)
  · intro h
    cases h with
    | none => rfl
    | some hparen h =>
      split
      · exact absurd rfl (hparen _)
      · exact items_ok.2 h

theorem afterDot_ok :
    afterDot sub power ts = .ok (e, rest) ↔ AfterDot (readings sub) power ts e rest := by
  constructor
  · intro h
    unfold afterDot at h
    split at h
    · obtain ⟨es, rfl, hes⟩ := multiList_ok.1 h
      exact .list hes
    · obtain ⟨ps, rfl, hps⟩ := multiHash_ok.1 h
      exact .hash hps
    · exact .step rfl h
    · exact .step rfl h
    · exact .step rfl h
    · cases h
  · intro h
    cases h with
    | list hes => exact multiList_ok.2 ⟨_, rfl, hes⟩
    | hash hps => exact multiHash_ok.2 ⟨_, rfl, hps⟩
    | @step t _ _ _ ht h =>
      cases t <;> first | exact h | cases ht

theorem projected_ok :
    projected sub power ts = .ok (e, rest) ↔ Projected (readings sub) power ts e rest := by
  constructor
  · intro h
    unfold projected at h
    split at h
    · cases h
      exact .none ‹_›
    · split at h
      · exact .dot (afterDot_ok.1 h)
      · exact .bracket h
      · exact .filter h
      · cases h
  · intro h
    cases h with
    | none hstop =>
      unfold projected
      rw [if_pos hstop]
    | dot h => exact afterDot_ok.2 h
    | bracket h => exact h
    | filter h => exact h

theorem project_ok {kind : Projection} :
    project sub kind power lhs ts = .ok (e, rest) ↔
      ∃ rhs, e = .project kind lhs rhs ∧ Projected (readings sub) power ts rhs rest := by
  unfold project
  constructor
  · intro h
    split at h
    · cases h
    · rename_i hrhs
      cases h
      exact ⟨_, rfl, projected_ok.1 hrhs⟩
  · rintro ⟨rhs, rfl, h⟩
    rw [projected_ok.2 h]

theorem filter_ok :
    filter sub lhs ts = .ok (e, rest) ↔ Filtered (readings sub) lhs ts e rest := by
  constructor
  · intro h
    unfold filter at h
    split at h
    · cases h
    · rename_i hpredicate
      split at h
      · cases h
      · rename_i hrhs
        cases h
        exact .mk hpredicate (projected_ok.1 hrhs)
    · cases h
  · rintro ⟨hpredicate, hrhs⟩
    rw [filter, show sub 0 _ = _ from hpredicate]
    simp only [projected_ok.2 hrhs]

theorem eq_of_number? {n : Option Int64} (h : number? ts = (n, rest)) :
    ts = numberTokens n ++ rest := by
  unfold number? at h
  split at h <;> cases h <;> rfl

theorem number?_append {n : Option Int64} (h : ∀ m more, ts ≠ .number m :: more) :
    number? (numberTokens n ++ ts) = (n, ts) := by
  cases n with
  | some n => rfl
  | none =>
    simp only [numberTokens, List.nil_append]
    unfold number?
    split
    · exact absurd rfl (h _ _)
    · rfl

theorem sliceFrom_ok {start : Option Int64} :
    sliceFrom sub lhs start ts = .ok (e, rest) ↔
      ∃ stop step mid rhs, step ≠ some (some 0) ∧
        ts = .colon :: (numberTokens stop ++ (stepTokens step ++ .closeBracket :: mid)) ∧
        e = .project (.slice ⟨start, stop, step.join.getD 1⟩) lhs rhs ∧
        Projected (readings sub) Token.star.power mid rhs rest := by
  constructor
  · intro h
    unfold sliceFrom at h
    split at h
    · rename_i ts
      cases hstop : number? ts with
      | mk stop behind =>
        rw [hstop] at h
        simp only at h
        split at h
        · rename_i mid
          obtain ⟨rhs, rfl, hrhs⟩ := project_ok.1 h
          exact ⟨stop, none, mid, rhs, nofun, by rw [eq_of_number? hstop]; rfl, rfl, hrhs⟩
        · rename_i stepTs
          cases hstep : number? stepTs with
          | mk step behind =>
            rw [hstep] at h
            simp only at h
            split at h
            · rename_i mid
              split at h
              · cases h
              · rename_i hzero
                obtain ⟨rhs, rfl, hrhs⟩ := project_ok.1 h
                refine ⟨stop, some step, mid, rhs, by simpa using hzero, ?_, rfl, hrhs⟩
                rw [eq_of_number? hstop, eq_of_number? hstep]
                rfl
            · cases h
        · cases h
    · cases h
  · rintro ⟨stop, step, mid, rhs, hzero, rfl, rfl, hrhs⟩
    have hproject : project sub (.slice ⟨start, stop, step.join.getD 1⟩) Token.star.power lhs mid =
        .ok (.project (.slice ⟨start, stop, step.join.getD 1⟩) lhs rhs, rest) :=
      project_ok.2 ⟨rhs, rfl, hrhs⟩
    unfold sliceFrom
    cases step with
    | none =>
      simp only [stepTokens, List.nil_append]
      rw [number?_append (by nofun)]
      exact hproject
    | some step =>
      simp only [stepTokens, List.cons_append]
      rw [number?_append (by nofun)]
      simp only
      rw [number?_append (by nofun)]
      simp only
      rw [if_neg (by simpa using hzero)]
      exact hproject

theorem bracket?_eq_none : bracket? sub lhs ts = none ↔ startsBracket ts = false := by
  unfold bracket? startsBracket
  constructor
  · intro h
    split at h <;> simp_all
  · intro h
    split <;> simp_all

theorem bracket?_eq_ok :
    bracket? sub lhs ts = some (.ok (e, rest)) ↔ Bracketed (readings sub) lhs ts e rest := by
  constructor
  · intro h
    unfold bracket? at h
    split at h
    · cases h
      exact .index
    · rename_i n more _
      obtain ⟨stop, step, mid, rhs, hzero, rfl, rfl, hrhs⟩ := sliceFrom_ok.1 (Option.some.inj h)
      exact @Bracketed.slice _ lhs (some n) stop step mid rhs rest hzero hrhs
    · obtain ⟨stop, step, mid, rhs, hzero, htail, rfl, hrhs⟩ := sliceFrom_ok.1 (Option.some.inj h)
      rw [htail]
      exact @Bracketed.slice _ lhs none stop step mid rhs rest hzero hrhs
    · obtain ⟨rhs, rfl, hrhs⟩ := project_ok.1 (Option.some.inj h)
      exact .list hrhs
    · cases h
  · intro h
    cases h with
    | index => rfl
    | list hrhs => exact congrArg some (project_ok.2 ⟨_, rfl, hrhs⟩)
    | @slice start stop step ts rhs rest hzero hrhs =>
      have hslice : sliceFrom sub lhs start _ = .ok (_, rest) :=
        sliceFrom_ok.2 ⟨stop, step, ts, rhs, hzero, rfl, rfl, hrhs⟩
      cases start with
      | none => exact congrArg some hslice
      | some n => exact congrArg some hslice

theorem call_ok {name : String} {whole : List Token} :
    call arity? sub name whole ts = .ok (e, rest) ↔
      ∃ arity args, e = .call name args ∧ arity? name = some arity ∧
        arity.accepts args.length = true ∧ Arguments (readings sub) ts args rest := by
  unfold call
  constructor
  · intro h
    split at h
    · cases h
    · rename_i args mid hargs
      split at h
      · cases h
      · rename_i arity harity
        split at h
        · cases h
          exact ⟨arity, args, rfl, harity, ‹_›, arguments_ok.1 hargs⟩
        · cases h
  · rintro ⟨arity, args, rfl, harity, haccepts, hargs⟩
    rw [arguments_ok.2 hargs]
    simp only [harity, haccepts, if_true]

theorem primary_ok :
    primary arity? sub ts = .ok (e, rest) ↔ Primary arity? (readings sub) ts e rest := by
  constructor
  · intro h
    unfold primary at h
    split at h
    · cases h
      exact .current
    · obtain ⟨arity, args, rfl, harity, haccepts, hargs⟩ := call_ok.1 h
      exact .call harity haccepts hargs
    · rename_i hparen
      cases h
      exact .identifier fun more hmore => hparen more hmore
    · cases h
    · rename_i hparen
      cases h
      exact .quoted fun more hmore => hparen more hmore
    · cases h
      exact .raw
    · cases h
      exact .literal
    · obtain ⟨rhs, rfl, hrhs⟩ := project_ok.1 h
      exact .values hrhs
    · rename_i mid
      cases hbracket : bracket? sub .current mid with
      | none =>
        rw [hbracket] at h
        obtain ⟨es, rfl, hes⟩ := multiList_ok.1 h
        exact .multiList (bracket?_eq_none.1 hbracket) hes
      | some r =>
        rw [hbracket] at h
        subst h
        exact .bracketed (bracket?_eq_ok.1 hbracket)
    · obtain ⟨rhs, rfl, hrhs⟩ := project_ok.1 h
      exact .flatten hrhs
    · exact .filter (filter_ok.1 h)
    · obtain ⟨ps, rfl, hps⟩ := multiHash_ok.1 h
      exact .multiHash hps
    · split at h
      · cases h
      · rename_i hbody
        cases h
        exact .reference hbody
    · split at h
      · cases h
      · rename_i hoperand
        cases h
        exact .not hoperand
    · split at h
      · cases h
      · rename_i hinner
        cases h
        exact .group hinner
      · cases h
    · cases h
  · intro h
    cases h with
    | current => rfl
    | @identifier name ts hparen =>
      unfold primary
      split <;> simp_all
    | call harity haccepts hargs => exact call_ok.2 ⟨_, _, rfl, harity, haccepts, hargs⟩
    | @quoted name ts hparen =>
      unfold primary
      split <;> simp_all
    | raw => rfl
    | literal => rfl
    | values hrhs => exact project_ok.2 ⟨_, rfl, hrhs⟩
    | bracketed hbracket => simp only [primary, bracket?_eq_ok.2 hbracket, Option.getD_some]
    | multiList hbracket hes =>
      simp only [primary, bracket?_eq_none.2 hbracket, Option.getD_none]
      exact multiList_ok.2 ⟨_, rfl, hes⟩
    | flatten hrhs => exact project_ok.2 ⟨_, rfl, hrhs⟩
    | filter h => exact filter_ok.2 h
    | multiHash hps => exact multiHash_ok.2 ⟨_, rfl, hps⟩
    | reference hbody => simp only [primary, show sub 0 _ = _ from hbody]
    | not hoperand => simp only [primary, show sub _ _ = _ from hoperand]
    | group hinner => simp only [primary, show sub 0 _ = _ from hinner]

theorem extend_ok :
    extend sub left ts = .ok (e, rest) ↔ Extension (readings sub) left ts e rest := by
  constructor
  · intro h
    unfold extend at h
    split at h
    · obtain ⟨rhs, rfl, hrhs⟩ := project_ok.1 h
      exact .values hrhs
    · rename_i hstar
      split at h
      · cases h
      · rename_i hrhs
        cases h
        exact .subexpr (fun more hmore => hstar more hmore) (afterDot_ok.1 hrhs)
    · rename_i mid
      cases hbracket : bracket? sub left mid with
      | none =>
        rw [hbracket] at h
        cases h
      | some r =>
        rw [hbracket] at h
        subst h
        exact .bracketed (bracket?_eq_ok.1 hbracket)
    · obtain ⟨rhs, rfl, hrhs⟩ := project_ok.1 h
      exact .flatten hrhs
    · exact .filter (filter_ok.1 h)
    · split at h
      · cases h
      · rename_i hrhs
        cases h
        exact .pipe hrhs
    · split at h
      · rename_i hregex
        cases h
        exact .resembles hregex
      · cases h
    · cases h
    · split at h
      · rename_i hop
        split at h
        · cases h
        · rename_i hrhs
          cases h
          exact .binary hop hrhs
      · cases h
    · cases h
  · intro h
    cases h with
    | values hrhs => exact project_ok.2 ⟨_, rfl, hrhs⟩
    | @subexpr ts rhs rest hstar hrhs =>
      have hdot := afterDot_ok.2 hrhs
      rcases ts with _ | ⟨t, ts⟩
      · simp only [extend, hdot]
      · cases t <;> first | exact absurd rfl (hstar _) | simp only [extend, hdot]
    | bracketed hbracket => simp only [extend, bracket?_eq_ok.2 hbracket, Option.getD_some]
    | flatten hrhs => exact project_ok.2 ⟨_, rfl, hrhs⟩
    | filter h => exact filter_ok.2 h
    | pipe hrhs => simp only [extend, show sub _ _ = _ from hrhs]
    | resembles hregex => simp only [extend, hregex]
    | @binary t op ts rhs rest hop hrhs =>
      have hsub : sub op.power ts = .ok (rhs, rest) := hrhs
      cases t with
      | or | and | eq | ne | lt | le | gt | ge => simp only [extend, hop, hsub]
      | _ => cases hop

end JsonQuery.Grammar
