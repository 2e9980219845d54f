import Mathlib
import JsonQuery.Expr.Grammar

/-!
# The grammar with effects

The parts of the grammar once more, in any monad that can fail.  A reader that keeps a state, or two
readers that are given different things, are compared with the grammar through them.

* `Parsing` — a monad to read in; `Effectful.primary`, `Effectful.extend` — how an expression starts, and
  how a token takes it further.
* `Simulation` — a relation between reading in a monad and reading as the grammar does that every step
  keeps; `Simulation.primary`, `Simulation.extend` — it holds of the parts if it holds of the readers of
  nested expressions.
-/

namespace JsonQuery

namespace Grammar

/-- A monad to read in: reading can fail, and every call of a part of the reader is announced. -/
class Parsing (m : Type → Type) extends Monad m where
  fail {α : Type} : Fault → m α
  called {α : Type} : m α → m α

instance : Parsing (Except Fault) where
  fail := .error
  called x := x

namespace Effectful

open Parsing (called fail)

variable {m : Type → Type} [Parsing m] {α : Type}

/-- A fault that names the token it stands at, or the end. -/
def refuse (cause : Option Token → ParseError.Cause) (ts : List Token) : m α :=
  fail ⟨cause ts.head?, ts⟩

/-- Items with commas between them, and the end. -/
def items (item : List Token → m (α × List Token)) (close : Closing) (ts : List Token) :
    m (List α × List Token) := do
  let (a, after) ← item ts
  match after with
  | .comma :: rest =>
    if rest.length < ts.length then
      let (as, rest) ← items item close rest
      pure (a :: as, rest)
    else refuse (.expectedCommaOr close.token) after
  | t :: rest =>
    if close.isEnd t then pure ([a], rest) else refuse (.expectedCommaOr close.token) after
  | [] => refuse (.expectedCommaOr close.token) after
termination_by ts.length

/-- The reader of nested expressions: it is given the power to stop at. -/
abbrev Nested (m : Type → Type) := Nat → List Token → m (Expr × List Token)

variable (arity? : String → Option Arity) (sub : Nested m)

/-- A list of expressions, behind its opening bracket. -/
def multiList (ts : List Token) : m (Expr × List Token) := called do
  let (es, rest) ← items (sub 0) .bracket ts
  pure (.multiList es, rest)

/-- A key, a colon and an expression. -/
def pair : List Token → m ((String × Expr) × List Token)
  | .identifier key :: rest => value key rest
  | .quoted key :: rest => value key rest
  | ts => refuse .expectedKey ts
where
  /-- The colon and the expression behind a key. -/
  value (key : String) : List Token → m ((String × Expr) × List Token)
    | .colon :: rest => do
      let (e, rest) ← sub 0 rest
      pure ((key, e), rest)
    | ts => refuse (.expected .colon) ts

/-- A list of named expressions, behind its opening brace. -/
def multiHash (ts : List Token) : m (Expr × List Token) := called do
  let (ps, rest) ← items (pair sub) .brace ts
  pure (.multiHash ps, rest)

/-- The arguments of a function, behind the opening parenthesis. -/
def arguments : List Token → m (List Expr × List Token)
  | .closeParen :: rest => pure ([], rest)
  | ts => items (sub 0) .paren ts

/-- The number of arguments of a function; `whole` are the tokens from its name on. -/
def arity (name : String) (whole : List Token) : m Arity :=
  match arity? name with
  | none => fail ⟨.unknownFunction name, whole⟩
  | some arity => pure arity

/-- A call of `name`; `ts` are the tokens behind the opening parenthesis and `whole` those from the
name on. -/
def call (name : String) (whole ts : List Token) : m (Expr × List Token) := called do
  let (args, rest) ← arguments sub ts
  let arity ← arity arity? name whole
  if arity.accepts args.length then pure (.call name args, rest)
  else fail ⟨.wrongCount name arity args.length, whole⟩

/-- What may stand behind a dot. -/
def afterDot (power : Nat) (ts : List Token) : m (Expr × List Token) := called <|
  match ts with
  | .openBracket :: rest => multiList sub rest
  | .openBrace :: rest => multiHash sub rest
  | .identifier _ :: _ | .quoted _ :: _ | .star :: _ => sub power ts
  | _ => refuse .afterDot ts

/-- The right side of a projection. -/
def projected (power : Nat) (ts : List Token) : m (Expr × List Token) := called <|
  if Token.nextPower ts < projectionStop then pure (.current, ts)
  else
    match ts with
    | .dot :: rest => afterDot sub power rest
    | .openBracket :: _ | .filter :: _ => sub power ts
    | _ => refuse .afterProjection ts

/-- A projection of `lhs` by `kind`, whose right side follows. -/
def project (kind : Projection) (power : Nat) (lhs : Expr) (ts : List Token) :
    m (Expr × List Token) := do
  let (rhs, rest) ← projected sub power ts
  pure (.project kind lhs rhs, rest)

/-- A filter of `lhs`, behind its opening sign. -/
def filter (lhs : Expr) (ts : List Token) : m (Expr × List Token) := called do
  let (predicate, after) ← sub 0 ts
  match after with
  | .closeBracket :: rest =>
    let (rhs, rest) ← projected sub Token.filter.power rest
    pure (.filter predicate lhs rhs, rest)
  | after => refuse (.expected .closeBracket) after

/-- A slice of `lhs`, from its first colon on. -/
def sliceFrom (lhs : Expr) (start : Option Int64) (ts : List Token) : m (Expr × List Token) :=
  called <|
  match ts with
  | .colon :: rest =>
    let (stop, rest) := number? rest
    match rest with
    | .closeBracket :: rest =>
      project sub (.slice ⟨start, stop, 1⟩) Token.star.power lhs rest
    | .colon :: stepTokens =>
      let (step, rest) := number? stepTokens
      match rest with
      | .closeBracket :: rest =>
        if step = some 0 then fail ⟨.zeroStep, stepTokens⟩
        else project sub (.slice ⟨start, stop, step.getD 1⟩) Token.star.power lhs rest
      | _ => refuse .inSlice rest
    | _ => refuse .inSlice rest
  | _ => refuse .inSlice ts

/-- An index, a slice or a list projection of `lhs`, behind the opening bracket; none when the
bracket opens something else. -/
def bracket? (lhs : Expr) (ts : List Token) : Option (m (Expr × List Token)) :=
  match ts with
  | .number n :: .closeBracket :: rest => some (called (pure (indexed lhs n, rest)))
  | .number n :: rest => some (sliceFrom sub lhs (some n) rest)
  | .colon :: _ => some (sliceFrom sub lhs none ts)
  | .star :: .closeBracket :: rest => some (project sub .list Token.star.power lhs rest)
  | _ => none

/-- How an expression starts. -/
def primary (ts : List Token) : m (Expr × List Token) := called <|
  match ts with
  | .current :: rest => pure (.current, rest)
  | .identifier name :: .openParen :: rest => call arity? sub name ts rest
  | .identifier name :: rest => pure (.identifier name, rest)
  | .quoted _ :: .openParen :: _ => fail ⟨.quotedFunction, ts⟩
  | .quoted name :: rest => pure (.identifier name, rest)
  | .raw s :: rest => pure (.literal (.string s), rest)
  | .literal v :: rest => pure (.literal v, rest)
  | .star :: rest => project sub .values Token.star.power .current rest
  | .openBracket :: rest => (bracket? sub .current rest).getD (multiList sub rest)
  | .flatten :: rest => project sub .flatten Token.flatten.power .current rest
  | .filter :: rest => filter sub .current rest
  | .openBrace :: rest => multiHash sub rest
  | .ampersand :: rest => do
    let (body, rest) ← sub 0 rest
    pure (.reference body, rest)
  | .not :: rest => do
    let (operand, rest) ← sub Token.not.power rest
    pure (.not operand, rest)
  | .openParen :: rest => do
    let (e, after) ← sub 0 rest
    match after with
    | .closeParen :: rest => pure (e, rest)
    | after => refuse (.expected .closeParen) after
  | _ => refuse .unexpected ts

/-- How the next token takes the expression before it further. -/
def extend (left : Expr) (ts : List Token) : m (Expr × List Token) := called <|
  match ts with
  | .dot :: .star :: rest => project sub .values Token.star.power left rest
  | .dot :: rest => do
    let (rhs, rest) ← afterDot sub Token.dot.power rest
    pure (.subexpr left rhs, rest)
  | .openBracket :: rest => (bracket? sub left rest).getD (refuse .expectedBracketItem rest)
  | .flatten :: rest => project sub .flatten Token.flatten.power left rest
  | .filter :: rest => filter sub left rest
  | .pipe :: rest => do
    let (rhs, rest) ← sub Token.pipe.power rest
    pure (.pipe left rhs, rest)
  | .resembles :: .raw pattern :: rest =>
    match Regex.compile? pattern with
    | some regex => pure (.resembles regex left, rest)
    | none => fail ⟨.badPattern pattern, .raw pattern :: rest⟩
  | .resembles :: rest => refuse .expectedPattern rest
  | t :: rest =>
    match binaryOp? t with
    | some op => do
      let (rhs, rest) ← sub op.power rest
      pure (.binary op left rhs, rest)
    | none => refuse .unexpected ts
  | [] => refuse .unexpected ts

end Effectful

/-! ## Simulation -/

/-- A relation between reading in a monad and reading as the grammar does that every step keeps. -/
structure Simulation (m : Type → Type) [Parsing m] where
  holds : ∀ {α : Type}, m α → Except Fault α → Prop
  pure : ∀ {α : Type} (a : α), holds (Pure.pure a) (.ok a)
  fail : ∀ {α : Type} (fault : Fault), holds (Parsing.fail fault : m α) (.error fault)
  called : ∀ {α : Type} {x : m α} {y : Except Fault α}, holds x y → holds (Parsing.called x) y
  bind : ∀ {α β : Type} {x : m α} {y : Except Fault α} {k : α → m β} {z : Except Fault β},
    holds x y → (∀ fault, y = .error fault → z = .error fault) →
      (∀ a, y = .ok a → holds (k a) z) → holds (x >>= k) z

namespace Simulation

variable {m : Type → Type} [Parsing m] (S : Simulation m)

theorem refuse {α : Type} (cause : Option Token → ParseError.Cause) (ts : List Token) :
    S.holds (Effectful.refuse cause ts : m (α × List Token)) (Grammar.refuse cause ts) := S.fail _

/-- The same look-up is compared with itself. -/
theorem arity (arity? : String → Option Arity) (name : String) (whole : List Token) :
    S.holds (Effectful.arity arity? name whole)
      (Effectful.arity (m := Except Fault) arity? name whole) := by
  unfold Effectful.arity
  split
  · exact S.fail _
  · exact S.pure _

theorem items {α : Type} {item : List Token → m (α × List Token)} {item' : List Token → Parsed α}
    (hitem : ∀ ts, S.holds (item ts) (item' ts)) (close : Closing) (ts : List Token) :
    S.holds (Effectful.items item close ts) (Grammar.items item' close ts) := by
  induction hn : ts.length using Nat.strongRecOn generalizing ts with
  | ind n ih =>
    rw [Effectful.items, Grammar.items]
    refine S.bind (hitem ts) (fun _ h => by rw [h]) fun r h => ?_
    obtain ⟨a, after⟩ := r
    dsimp only
    split
    · rename_i rest
      by_cases hlt : rest.length < ts.length
      · simp only [h, if_pos hlt]
        refine S.bind (ih _ (hn ▸ hlt) rest rfl) (fun _ h => by rw [h]) fun _ h => ?_
        rw [h]
        exact S.pure _
      · simp only [h, if_neg hlt]
        exact S.refuse _ _
    · rename_i t rest _
      by_cases hend : close.isEnd t
      · simp only [h, if_pos hend]
        exact S.pure _
      · simp only [h, if_neg hend]
        exact S.refuse _ _
    · rw [h]
      exact S.refuse _ _

section Parts

variable {arity? arity?' : String → Option Arity} {sub : Effectful.Nested m} {sub' : Reader}
  (hsub : ∀ power ts, S.holds (sub power ts) (sub' power ts))
include hsub

theorem multiList (ts : List Token) :
    S.holds (Effectful.multiList sub ts) (Grammar.multiList sub' ts) := by
  unfold Grammar.multiList
  refine S.called (S.bind (S.items (hsub 0) _ _) (fun _ h => by rw [h]) fun _ h => ?_)
  rw [h]
  exact S.pure _

theorem pair (ts : List Token) : S.holds (Effectful.pair sub ts) (Grammar.pair sub' ts) := by
  have hvalue : ∀ key ts,
      S.holds (Effectful.pair.value sub key ts) (Grammar.pair.value sub' key ts) := by
    intro key ts
    unfold Effectful.pair.value
    split
    · rw [Grammar.pair.value]
      refine S.bind (hsub _ _) (fun _ h => by rw [h]) fun _ h => ?_
      rw [h]
      exact S.pure _
    · simp only [Grammar.pair.value]
      exact S.refuse _ _
  unfold Effectful.pair
  split
  · exact hvalue _ _
  · exact hvalue _ _
  · simp only [Grammar.pair]
    exact S.refuse _ _

theorem multiHash (ts : List Token) :
    S.holds (Effectful.multiHash sub ts) (Grammar.multiHash sub' ts) := by
  unfold Grammar.multiHash
  refine S.called (S.bind (S.items (S.pair hsub) _ _) (fun _ h => by rw [h]) fun _ h => ?_)
  rw [h]
  exact S.pure _

theorem arguments (ts : List Token) :
    S.holds (Effectful.arguments sub ts) (Grammar.arguments sub' ts) := by
  unfold Effectful.arguments
  split
  · exact S.pure _
  · simp only [Grammar.arguments]
    exact S.items (hsub 0) _ _

/-- A call is read alike where the name is looked up alike. -/
theorem call (harity : ∀ name whole, S.holds (Effectful.arity arity? name whole)
      (Effectful.arity (m := Except Fault) arity?' name whole))
    (name : String) (whole ts : List Token) :
    S.holds (Effectful.call arity? sub name whole ts) (Grammar.call arity?' sub' name whole ts) := by
  unfold Grammar.call
  refine S.called (S.bind (S.arguments hsub ts) (fun _ h => by rw [h]) fun r h => ?_)
  obtain ⟨args, rest⟩ := r
  rw [h]
  refine S.bind (harity name whole) ?_ ?_
  · intro fault hfault
    unfold Effectful.arity at hfault
    split at hfault
    · cases hfault
      simp only [*]
    · cases hfault
  · intro arity hname
    unfold Effectful.arity at hname
    split at hname
    · cases hname
    · cases hname
      simp only [*]
      split
      · exact S.pure _
      · exact S.fail _

theorem afterDot (power : Nat) (ts : List Token) :
    S.holds (Effectful.afterDot sub power ts) (Grammar.afterDot sub' power ts) := by
  refine S.called ?_
  split
  · exact S.multiList hsub _
  · exact S.multiHash hsub _
  · exact hsub _ _
  · exact hsub _ _
  · exact hsub _ _
  · simp only [Grammar.afterDot]
    exact S.refuse _ _

theorem projected (power : Nat) (ts : List Token) :
    S.holds (Effectful.projected sub power ts) (Grammar.projected sub' power ts) := by
  refine S.called ?_
  by_cases hstop : Token.nextPower ts < projectionStop
  · rw [if_pos hstop, Grammar.projected.eq_def, if_pos hstop]
    exact S.pure _
  · rw [if_neg hstop]
    split
    · rw [Grammar.projected, if_neg hstop]
      exact S.afterDot hsub _ _
    · rw [Grammar.projected, if_neg hstop]
      exact hsub _ _
    · rw [Grammar.projected, if_neg hstop]
      exact hsub _ _
    · simp only [Grammar.projected, if_neg hstop]
      exact S.refuse _ _

theorem project (kind : Projection) (power : Nat) (lhs : Expr) (ts : List Token) :
    S.holds (Effectful.project sub kind power lhs ts)
      (Grammar.project sub' kind power lhs ts) := by
  unfold Grammar.project
  refine S.bind (S.projected hsub _ _) (fun _ h => by rw [h]) fun _ h => ?_
  rw [h]
  exact S.pure _

theorem filter (lhs : Expr) (ts : List Token) :
    S.holds (Effectful.filter sub lhs ts) (Grammar.filter sub' lhs ts) := by
  unfold Grammar.filter
  refine S.called (S.bind (hsub _ _) (fun _ h => by rw [h]) fun r h => ?_)
  obtain ⟨predicate, after⟩ := r
  dsimp only
  split
  · rw [h]
    refine S.bind (S.projected hsub _ _) (fun _ h => ?_) fun _ h => ?_
    · simp only [h]
    · simp only [h]
      exact S.pure _
  · simp only [h]
    exact S.refuse _ _

theorem sliceFrom (lhs : Expr) (start : Option Int64) (ts : List Token) :
    S.holds (Effectful.sliceFrom sub lhs start ts) (Grammar.sliceFrom sub' lhs start ts) := by
  refine S.called ?_
  split
  · rename_i rest
    rcases hstop : number? rest with ⟨stop, afterStop⟩
    dsimp only
    split
    · simp only [Grammar.sliceFrom, hstop]
      exact S.project hsub _ _ _ _
    · rename_i stepTokens
      rcases hstep : number? stepTokens with ⟨step, afterStep⟩
      dsimp only
      split
      · by_cases hzero : step = some 0
        · simp only [Grammar.sliceFrom, hstop, hstep, if_pos hzero]
          exact S.fail _
        · simp only [Grammar.sliceFrom, hstop, hstep, if_neg hzero]
          exact S.project hsub _ _ _ _
      · simp only [Grammar.sliceFrom, hstop, hstep]
        exact S.refuse _ _
    · simp only [Grammar.sliceFrom, hstop]
      exact S.refuse _ _
  · simp only [Grammar.sliceFrom]
    exact S.refuse _ _

/-- What stands behind a bracket, or else what is read in its place. -/
theorem bracket (lhs : Expr) (ts : List Token) {x : m (Expr × List Token)} {y : Parsed Expr}
    (helse : S.holds x y) :
    S.holds ((Effectful.bracket? sub lhs ts).getD x) ((Grammar.bracket? sub' lhs ts).getD y) := by
  unfold Effectful.bracket?
  split
  · exact S.called (S.pure _)
  · simp only [Grammar.bracket?]
    exact S.sliceFrom hsub _ _ _
  · rw [Grammar.bracket?, Option.getD_some, Option.getD_some]
    exact S.sliceFrom hsub _ _ _
  · exact S.project hsub _ _ _ _
  · simp only [Grammar.bracket?]
    exact helse

theorem primary (harity : ∀ name whole, S.holds (Effectful.arity arity? name whole)
      (Effectful.arity (m := Except Fault) arity?' name whole)) (ts : List Token) :
    S.holds (Effectful.primary arity? sub ts) (Grammar.primary arity?' sub' ts) := by
  refine S.called ?_
  split
  · exact S.pure _
  · exact S.call hsub harity _ _ _
  · simp only [Grammar.primary]
    exact S.pure _
  · exact S.fail _
  · simp only [Grammar.primary]
    exact S.pure _
  · exact S.pure _
  · exact S.pure _
  · exact S.project hsub _ _ _ _
  · exact S.bracket hsub _ _ (S.multiList hsub _)
  · exact S.project hsub _ _ _ _
  · exact S.filter hsub _ _
  · exact S.multiHash hsub _
  · rw [Grammar.primary]
    refine S.bind (hsub _ _) (fun _ h => by rw [h]) fun _ h => ?_
    rw [h]
    exact S.pure _
  · rw [Grammar.primary]
    refine S.bind (hsub _ _) (fun _ h => by rw [h]) fun _ h => ?_
    rw [h]
    exact S.pure _
  · rw [Grammar.primary]
    refine S.bind (hsub _ _) (fun _ h => by rw [h]) fun r h => ?_
    obtain ⟨e, after⟩ := r
    dsimp only
    split
    · rw [h]
      exact S.pure _
    · simp only [h]
      exact S.refuse _ _
  · simp only [Grammar.primary]
    exact S.refuse _ _

theorem extend (left : Expr) (ts : List Token) :
    S.holds (Effectful.extend sub left ts) (Grammar.extend sub' left ts) := by
  refine S.called ?_
  split
  · exact S.project hsub _ _ _ _
  · simp only [Grammar.extend]
    refine S.bind (S.afterDot hsub _ _) (fun _ h => by rw [h]) fun _ h => ?_
    rw [h]
    exact S.pure _
  · exact S.bracket hsub _ _ (S.refuse _ _)
  · exact S.project hsub _ _ _ _
  · exact S.filter hsub _ _
  · rw [Grammar.extend]
    refine S.bind (hsub _ _) (fun _ h => by rw [h]) fun _ h => ?_
    rw [h]
    exact S.pure _
  · rename_i pattern rest
    rw [Grammar.extend]
    cases Regex.compile? pattern with
    | some regex => exact S.pure _
    | none => exact S.fail _
  · simp only [Grammar.extend]
    exact S.refuse _ _
  · rename_i t rest _ _ _ _ _ _ _ _
    simp only [Grammar.extend]
    cases binaryOp? t with
    | some op =>
      refine S.bind (hsub _ _) (fun _ h => by simp only [h]) fun _ h => ?_
      simp only [h]
      exact S.pure _
    | none => exact S.refuse _ _
  · exact S.refuse _ _

end Parts

end Simulation

end Grammar

end JsonQuery
