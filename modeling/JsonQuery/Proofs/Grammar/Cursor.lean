import JsonQuery.Expr.Grammar

/-!
# The grammar with a cursor

The parts of the grammar once more, as a reader that moves a cursor over the tokens.  Behind the last token stands
the end: looking further finds the end again, and taking the end leaves the cursor there.  Nothing but fuel bounds
the loops and the nesting.

* `Cursor` — the place in the tokens, with a record of what has been taken and read; `Run` — reading with a cursor.
* `Run.peek`, `Run.advance` — looks at a token, and takes one.
* `Run.items`, `Run.slots` — the loops over items and over the parts of a slice.
* `Run.expression`, `Run.whole` — the reader of expressions, and of all the tokens.
-/

namespace JsonQuery

namespace Grammar

/-- What has been taken: a token, or the end, and its place. -/
structure Taken where
  token : Option Token
  place : Nat

/-- The cursor of a run, and what has been done so far. -/
structure Cursor where
  place : Nat
  /-- What has been taken, the last first. -/
  taken : List Taken
  /-- The number of operands and of links behind operands that have been begun. -/
  steps : Nat
  /-- For every expression that has been read, what was taken for it. -/
  readings : List (List Taken)

/-- The cursor at the start of a run. -/
def Cursor.start : Cursor := ⟨0, [], 0, []⟩

/-- Reading with a cursor; nothing is returned once the fuel is used up. -/
structure Run (α : Type) where
  run : Cursor → Option (Except Fault α × Cursor)

namespace Run

variable {α : Type}

instance : Monad Run where
  pure a := ⟨fun c => some (.ok a, c)⟩
  bind x k := ⟨fun c =>
    match x.run c with
    | none => none
    | some (.error fault, c) => some (.error fault, c)
    | some (.ok a, c) => (k a).run c⟩

/-- The end of the fuel, and what the callers rule out. -/
def stuck : Run α := ⟨fun _ => none⟩

/-- A fault. -/
def fail (fault : Fault) : Run α := ⟨fun c => some (.error fault, c)⟩

/-- Records what has been taken for an expression, once it is read. -/
def recorded (x : Run α) : Run α := ⟨fun c =>
  match x.run c with
  | some (.ok a, c') =>
    some (.ok a, { c' with readings := c'.taken.take (c'.taken.length - c.taken.length) :: c'.readings })
  | ended => ended⟩

/-! ## The cursor -/

section Cursor

variable (ts : List Token)

/-- What stands at a distance from the cursor. -/
def peek (distance : Nat) : Run (Option Token) := ⟨fun c => some (.ok ts[c.place + distance]?, c)⟩

/-- Takes what stands at the cursor, which moves on unless it is at the end. -/
def advance : Run Taken := ⟨fun c =>
  let t : Taken := ⟨ts[c.place]?, c.place⟩
  some (.ok t, { c with
    place := if c.place < ts.length then c.place + 1 else c.place
    taken := t :: c.taken })⟩

/-- Takes the first token of an operand or of a link. -/
def begin : Run Taken := ⟨fun c => (advance ts).run { c with steps := c.steps + 1 }⟩

/-- A fault at a place. -/
def failAt (place : Nat) (cause : ParseError.Cause) : Run α := fail ⟨cause, ts.drop place⟩

/-- A fault at the cursor that names what stands there. -/
def refuse (cause : Option Token → ParseError.Cause) : Run α :=
  ⟨fun c => some (.error ⟨cause ts[c.place]?, ts.drop c.place⟩, c)⟩

/-- A fault at what has been taken, which it names. -/
def refuseTaken (t : Taken) (cause : Option Token → ParseError.Cause) : Run α :=
  failAt ts t.place (cause t.token)

end Cursor

/-! ## Sequences -/

/-- Whether a token is a colon. -/
def isColon : Token → Bool
  | .colon => true
  | _ => false

/-- Whether a token opens a list of arguments. -/
def isOpenParen : Token → Bool
  | .openParen => true
  | _ => false

section Parts

variable (ts : List Token)

/-- Takes the token that has to stand next. -/
def expect (wanted : Token) (isWanted : Token → Bool) : Run Unit := do
  let next ← peek ts 0
  if next.any isWanted then
    let _ ← advance ts
    pure ()
  else refuse ts (.expected wanted)

/-- Items with commas between them, and the end. -/
def items (item : Run α) (close : Closing) : Nat → Run (List α)
  | 0 => stuck
  | fuel + 1 => do
    let a ← item
    let t ← advance ts
    match t.token with
    | some .comma => do
      let as ← items item close fuel
      pure (a :: as)
    | found => if found.any close.isEnd then pure [a] else refuseTaken ts t (.expectedCommaOr close.token)

variable (arity? : String → Option Arity) (sub : Nat → Run Expr) (fuel : Nat)

/-- A list of expressions, behind its opening bracket. -/
def multiList : Run Expr := do
  let es ← items ts (sub 0) .bracket fuel
  pure (.multiList es)

/-- A key, a colon and an expression. -/
def pair : Run (String × Expr) := do
  let t ← advance ts
  match t.token with
  | some (.identifier key) | some (.quoted key) => do
    expect ts .colon isColon
    let e ← sub 0
    pure (key, e)
  | _ => refuseTaken ts t .expectedKey

/-- A list of named expressions, behind its opening brace. -/
def multiHash : Run Expr := do
  let ps ← items ts (pair ts sub) .brace fuel
  pure (.multiHash ps)

/-- The arguments of a function, behind the opening parenthesis. -/
def arguments : Run (List Expr) := do
  let next ← peek ts 0
  if next.any Closing.paren.isEnd then
    let _ ← advance ts
    pure []
  else items ts (sub 0) .paren fuel

/-- A call of the function whose name has been taken. -/
def call (name : String) (place : Nat) : Run Expr := do
  expect ts .openParen isOpenParen
  let args ← arguments ts sub fuel
  match arity? name with
  | none => failAt ts place (.unknownFunction name)
  | some arity =>
    if arity.accepts args.length then pure (.call name args)
    else failAt ts place (.wrongCount name arity args.length)

/-! ## Projections -/

/-- What may stand behind a dot. -/
def afterDot (power : Nat) : Run Expr := do
  let next ← peek ts 0
  match next with
  | some .openBracket => do
    let _ ← advance ts
    multiList ts sub fuel
  | some .openBrace => do
    let _ ← advance ts
    multiHash ts sub fuel
  | some (.identifier _) | some (.quoted _) | some .star => sub power
  | _ => refuse ts .afterDot

/-- The right side of a projection. -/
def projected (power : Nat) : Run Expr := do
  let next ← peek ts 0
  if (next.map Token.power).getD 0 < projectionStop then pure .current
  else
    match next with
    | some .dot => do
      let _ ← advance ts
      afterDot ts sub fuel power
    | some .openBracket | some .filter => sub power
    | _ => refuse ts .afterProjection

/-- A projection of `lhs` by `kind`, whose right side follows. -/
def project (kind : Projection) (power : Nat) (lhs : Expr) : Run Expr := do
  let rhs ← projected ts sub fuel power
  pure (.project kind lhs rhs)

/-- A filter of `lhs`, behind its opening sign. -/
def filter (lhs : Expr) : Run Expr := do
  let predicate ← sub 0
  expect ts .closeBracket Closing.bracket.isEnd
  let rhs ← projected ts sub fuel Token.filter.power
  pure (.filter predicate lhs rhs)

/-! ## Brackets -/

/-- The parts of an index or a slice that have been read, and the tokens from the step on. -/
structure Slots where
  /-- The part that is being read, from zero. -/
  part : Nat
  start : Option Int64
  stop : Option Int64
  step : Option Int64
  stepAt : Option (List Token)

/-- No part has been read. -/
def Slots.empty : Slots := ⟨0, none, none, none, none⟩

/-- The number of the part that is being read. -/
def Slots.here (s : Slots) : Option Int64 :=
  match s.part with
  | 0 => s.start
  | 1 => s.stop
  | _ => s.step

/-- Sets the number of the part that is being read, which stands at the first of these tokens. -/
def Slots.put (s : Slots) (n : Int64) (whole : List Token) : Slots :=
  match s.part with
  | 0 => { s with start := some n }
  | 1 => { s with stop := some n }
  | _ => { s with step := some n, stepAt := some whole }

/-- Numbers and colons up to the closing bracket. -/
def slots : Nat → Slots → Run Slots
  | 0, _ => stuck
  | fuel + 1, s => do
    let t ← advance ts
    match t.token with
    | some (.number n) =>
      if s.here.isNone then slots fuel (s.put n (ts.drop t.place)) else refuseTaken ts t .inSlice
    | some .colon =>
      if s.part < 2 then slots fuel { s with part := s.part + 1 } else refuseTaken ts t .inSlice
    | some .closeBracket => pure s
    | _ => refuseTaken ts t .inSlice

/-- An index or a slice of `lhs`, behind the opening bracket.  An index has a number: what stands next is a number
or a colon. -/
def indexOrSlice (lhs : Expr) : Run Expr := do
  let s ← slots ts fuel .empty
  if s.part = 0 then
    match s.start with
    | some n => pure (indexed lhs n)
    | none => stuck
  else
    match if s.step = some 0 then s.stepAt else none with
    | some whole => fail ⟨.zeroStep, whole⟩
    | none => project ts sub fuel (.slice ⟨s.start, s.stop, s.step.getD 1⟩) Token.star.power lhs

/-- An index, a slice or a list projection of `lhs`, behind the opening bracket, or else what the bracket opens. -/
def bracket (lhs : Expr) (otherwise : Run Expr) : Run Expr := do
  let first ← peek ts 0
  let second ← peek ts 1
  match first, second with
  | some (.number _), _ | some .colon, _ => indexOrSlice ts sub fuel lhs
  | some .star, some .closeBracket => do
    let _ ← advance ts
    let _ ← advance ts
    project ts sub fuel .list Token.star.power lhs
  | _, _ => otherwise

/-! ## Expressions -/

/-- How an expression starts. -/
def primary : Run Expr := do
  let t ← begin ts
  match t.token with
  | some .current => pure .current
  | some (.identifier name) => do
    let next ← peek ts 0
    if next.any isOpenParen then call ts arity? sub fuel name t.place else pure (.identifier name)
  | some (.quoted name) => do
    let next ← peek ts 0
    if next.any isOpenParen then failAt ts t.place .quotedFunction else pure (.identifier name)
  | some (.raw s) => pure (.literal (.string s))
  | some (.literal v) => pure (.literal v)
  | some .star => project ts sub fuel .values Token.star.power .current
  | some .openBracket => bracket ts sub fuel .current (multiList ts sub fuel)
  | some .flatten => project ts sub fuel .flatten Token.flatten.power .current
  | some .filter => filter ts sub fuel .current
  | some .openBrace => multiHash ts sub fuel
  | some .ampersand => do
    let body ← sub 0
    pure (.reference body)
  | some .not => do
    let operand ← sub Token.not.power
    pure (.not operand)
  | some .openParen => do
    let e ← sub 0
    expect ts .closeParen Closing.paren.isEnd
    pure e
  | _ => refuseTaken ts t .unexpected

/-- The pattern behind a sign of resemblance. -/
def resembling (left : Expr) : Run Expr := do
  let t ← advance ts
  match t.token with
  | some (.raw pattern) =>
    match Regex.compile? pattern with
    | some regex => pure (.resembles regex left)
    | none => failAt ts t.place (.badPattern pattern)
  | _ => refuseTaken ts t .expectedPattern

/-- How the next token takes the expression before it further. -/
def extend (left : Expr) : Run Expr := do
  let t ← begin ts
  match t.token with
  | some .dot => do
    let next ← peek ts 0
    match next with
    | some .star => do
      let _ ← advance ts
      project ts sub fuel .values Token.star.power left
    | _ => do
      let rhs ← afterDot ts sub fuel Token.dot.power
      pure (.subexpr left rhs)
  | some .openBracket => bracket ts sub fuel left (refuse ts .expectedBracketItem)
  | some .flatten => project ts sub fuel .flatten Token.flatten.power left
  | some .filter => filter ts sub fuel left
  | some .pipe => do
    let rhs ← sub Token.pipe.power
    pure (.pipe left rhs)
  | some .resembles => resembling ts left
  | found =>
    match found.bind binaryOp? with
    | some op => do
      let rhs ← sub op.power
      pure (.binary op left rhs)
    | none => refuseTaken ts t .unexpected

end Parts

mutual

/-- Reads an expression up to the first token that binds no stronger than `power`, within an allowance of
nesting. -/
def expression (ts : List Token) (arity? : String → Option Arity) (limit : Nat) : Nat → Nat → Nat → Run Expr
  | 0, _, _ => stuck
  | fuel + 1, depth, power => recorded <|
    match depth with
    | 0 => refuse ts fun _ => .tooDeep limit
    | depth + 1 => do
      let left ← primary ts arity? (expression ts arity? limit fuel depth) fuel
      chain ts arity? limit fuel depth power left

/-- Takes `left` further while the next token binds stronger than `power`. -/
def chain (ts : List Token) (arity? : String → Option Arity) (limit : Nat) : Nat → Nat → Nat → Expr → Run Expr
  | 0, _, _, _ => stuck
  | fuel + 1, depth, power, left => do
    let next ← peek ts 0
    if (next.map Token.power).getD 0 ≤ power then pure left
    else
      match depth with
      | 0 => refuse ts fun _ => .tooDeep limit
      | depth + 1 => do
        let left ← extend ts (expression ts arity? limit fuel depth) fuel left
        chain ts arity? limit fuel depth power left

end

/-- The expression that all the tokens make up. -/
def whole (ts : List Token) (arity? : String → Option Arity) (limit fuel : Nat) : Run Expr := do
  let e ← expression ts arity? limit fuel limit 0
  let next ← peek ts 0
  match next with
  | none => pure e
  | some _ => refuse ts .unexpected

end Run

end Grammar

end JsonQuery
