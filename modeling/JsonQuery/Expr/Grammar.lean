import JsonQuery.Expr
import JsonQuery.Token.Scanner

/-!
# From tokens to expressions

* `Grammar.expression` — reads an expression up to the first token that binds no stronger than a
  given power.  Its allowance counts nested expressions and the operators chained to an operand; it
  is spent on the way down and given back on return.
* `Grammar.primary`, `Grammar.extend` — how an expression starts, and how a token takes the
  expression before it further.  Both are given the reader of nested expressions.
* `Expr.parse` — the expression of a whole text.

A fault is located by the tokens that start with the faulty one.
-/

namespace JsonQuery

namespace Grammar

/-- A fault, and the tokens from the faulty one on. -/
structure Fault where
  cause : ParseError.Cause
  rest : List Token

/-- What reading yields: a value and the tokens behind it. -/
abbrev Parsed (α : Type) := Except Fault (α × List Token)

/-- The reader of nested expressions: it is given the power to stop at. -/
abbrev Reader := Nat → List Token → Parsed Expr

/-- A fault that names the token it stands at, or the end. -/
def refuse {α : Type} (cause : Option Token → ParseError.Cause) (ts : List Token) : Parsed α :=
  .error ⟨cause ts.head?, ts⟩

/-- Tokens that bind weaker than this end a projection (`PROJECTION_STOP`). -/
def projectionStop : Nat := 10

/-! ## Sequences -/

/-- What ends a sequence. -/
inductive Closing where
  | bracket | brace | paren
deriving DecidableEq

/-- The token that ends a sequence. -/
def Closing.token : Closing → Token
  | bracket => .closeBracket
  | brace => .closeBrace
  | paren => .closeParen

/-- Whether a token ends the sequence. -/
def Closing.isEnd : Closing → Token → Bool
  | bracket, .closeBracket => true
  | brace, .closeBrace => true
  | paren, .closeParen => true
  | _, _ => false

/-- Items with commas between them, and the end. -/
def items {α : Type} (item : List Token → Parsed α) (close : Closing) (ts : List Token) :
    Parsed (List α) :=
  match item ts with
  | .error fault => .error fault
  | .ok (a, after) =>
    match after with
    | .comma :: rest =>
      if rest.length < ts.length then
        match items item close rest with
        | .error fault => .error fault
        | .ok (as, rest) => .ok (a :: as, rest)
      else refuse (.expectedCommaOr close.token) after
    | t :: rest =>
      if close.isEnd t then .ok ([a], rest) else refuse (.expectedCommaOr close.token) after
    | [] => refuse (.expectedCommaOr close.token) after
termination_by ts.length

/-- A list of expressions, behind its opening bracket (`multi_select_list`). -/
def multiList (sub : Reader) (ts : List Token) : Parsed Expr :=
  match items (sub 0) .bracket ts with
  | .error fault => .error fault
  | .ok (es, rest) => .ok (.multiList es, rest)

/-- A key, a colon and an expression. -/
def pair (sub : Reader) : List Token → Parsed (String × Expr)
  | .identifier key :: rest => value key rest
  | .quoted key :: rest => value key rest
  | ts => refuse .expectedKey ts
where
  /-- The colon and the expression behind a key. -/
  value (key : String) : List Token → Parsed (String × Expr)
    | .colon :: rest =>
      match sub 0 rest with
      | .error fault => .error fault
      | .ok (e, rest) => .ok ((key, e), rest)
    | ts => refuse (.expected .colon) ts

/-- A list of named expressions, behind its opening brace (`multi_select_hash`). -/
def multiHash (sub : Reader) (ts : List Token) : Parsed Expr :=
  match items (pair sub) .brace ts with
  | .error fault => .error fault
  | .ok (ps, rest) => .ok (.multiHash ps, rest)

/-- The arguments of a function, behind the opening parenthesis. -/
def arguments (sub : Reader) : List Token → Parsed (List Expr)
  | .closeParen :: rest => .ok ([], rest)
  | ts => items (sub 0) .paren ts

/-- A call of `name`; `ts` are the tokens behind the opening parenthesis and `whole` those from the
name on (`function`).  The name and the number of arguments are checked last. -/
def call (arity? : String → Option Arity) (sub : Reader) (name : String)
    (whole ts : List Token) : Parsed Expr :=
  match arguments sub ts with
  | .error fault => .error fault
  | .ok (args, rest) =>
    match arity? name with
    | none => .error ⟨.unknownFunction name, whole⟩
    | some arity =>
      if arity.accepts args.length then .ok (.call name args, rest)
      else .error ⟨.wrongCount name arity args.length, whole⟩

/-! ## Projections -/

/-- What may stand behind a dot: a name, a call, a star, or a list of expressions (`parse_dot`). -/
def afterDot (sub : Reader) (power : Nat) (ts : List Token) : Parsed Expr :=
  match ts with
  | .openBracket :: rest => multiList sub rest
  | .openBrace :: rest => multiHash sub rest
  | .identifier _ :: _ | .quoted _ :: _ | .star :: _ => sub power ts
  | _ => refuse .afterDot ts

/-- The right side of a projection: nothing, a dotted chain, or a bracket (`projection_rhs`). -/
def projected (sub : Reader) (power : Nat) (ts : List Token) : Parsed Expr :=
  if Token.nextPower ts < projectionStop then .ok (.current, ts)
  else
    match ts with
    | .dot :: rest => afterDot sub power rest
    | .openBracket :: _ | .filter :: _ => sub power ts
    | _ => refuse .afterProjection ts

/-- A projection of `lhs` by `kind`, whose right side follows. -/
def project (sub : Reader) (kind : Projection) (power : Nat) (lhs : Expr) (ts : List Token) :
    Parsed Expr :=
  match projected sub power ts with
  | .error fault => .error fault
  | .ok (rhs, rest) => .ok (.project kind lhs rhs, rest)

/-- A filter of `lhs`, behind its opening sign. -/
def filter (sub : Reader) (lhs : Expr) (ts : List Token) : Parsed Expr :=
  match sub 0 ts with
  | .error fault => .error fault
  | .ok (predicate, .closeBracket :: rest) =>
    match projected sub Token.filter.power rest with
    | .error fault => .error fault
    | .ok (rhs, rest) => .ok (.filter predicate lhs rhs, rest)
  | .ok (_, after) => refuse (.expected .closeBracket) after

/-! ## Brackets -/

/-- A number, if one stands next. -/
def number? : List Token → Option Int64 × List Token
  | .number n :: rest => (some n, rest)
  | ts => (none, ts)

/-- A slice of `lhs`, from its first colon on. -/
def sliceFrom (sub : Reader) (lhs : Expr) (start : Option Int64) (ts : List Token) :
    Parsed Expr :=
  match ts with
  | .colon :: rest =>
    let (stop, rest) := number? rest
    match rest with
    | .closeBracket :: rest =>
      project sub (.slice ⟨start, stop, 1⟩) Token.star.power lhs rest
    | .colon :: stepTokens =>
      let (step, rest) := number? stepTokens
      match rest with
      | .closeBracket :: rest =>
        if step = some 0 then .error ⟨.zeroStep, stepTokens⟩
        else project sub (.slice ⟨start, stop, step.getD 1⟩) Token.star.power lhs rest
      | _ => refuse .inSlice rest
    | _ => refuse .inSlice rest
  | _ => refuse .inSlice ts

/-- An index of `lhs`; on the current value it stands alone. -/
def indexed (lhs : Expr) (n : Int64) : Expr :=
  match lhs with
  | .current => .index n
  | lhs => .subexpr lhs (.index n)

/-- An index, a slice or a list projection of `lhs`, behind the opening bracket; none when the
bracket opens something else. -/
def bracket? (sub : Reader) (lhs : Expr) (ts : List Token) : Option (Parsed Expr) :=
  match ts with
  | .number n :: .closeBracket :: rest => some (.ok (indexed lhs n, rest))
  | .number n :: rest => some (sliceFrom sub lhs (some n) rest)
  | .colon :: _ => some (sliceFrom sub lhs none ts)
  | .star :: .closeBracket :: rest => some (project sub .list Token.star.power lhs rest)
  | _ => none

/-! ## Expressions -/

/-- How an expression starts (`nud`). -/
def primary (arity? : String → Option Arity) (sub : Reader) (ts : List Token) : Parsed Expr :=
  match ts with
  | .current :: rest => .ok (.current, rest)
  | .identifier name :: .openParen :: rest => call arity? sub name ts rest
  | .identifier name :: rest => .ok (.identifier name, rest)
  | .quoted _ :: .openParen :: _ => .error ⟨.quotedFunction, ts⟩
  | .quoted name :: rest => .ok (.identifier name, rest)
  | .raw s :: rest => .ok (.literal (.string s), rest)
  | .literal v :: rest => .ok (.literal v, rest)
  | .star :: rest => project sub .values Token.star.power .current rest
  | .openBracket :: rest => (bracket? sub .current rest).getD (multiList sub rest)
  | .flatten :: rest => project sub .flatten Token.flatten.power .current rest
  | .filter :: rest => filter sub .current rest
  | .openBrace :: rest => multiHash sub rest
  | .ampersand :: rest =>
    match sub 0 rest with
    | .error fault => .error fault
    | .ok (body, rest) => .ok (.reference body, rest)
  | .not :: rest =>
    match sub Token.not.power rest with
    | .error fault => .error fault
    | .ok (operand, rest) => .ok (.not operand, rest)
  | .openParen :: rest =>
    match sub 0 rest with
    | .error fault => .error fault
    | .ok (e, .closeParen :: rest) => .ok (e, rest)
    | .ok (_, after) => refuse (.expected .closeParen) after
  | _ => refuse .unexpected ts

/-- The infix operator of a token (`binary_operator`). -/
def binaryOp? : Token → Option BinaryOp
  | .or => some .or
  | .and => some .and
  | .eq => some .eq
  | .ne => some .ne
  | .lt => some .lt
  | .le => some .le
  | .gt => some .gt
  | .ge => some .ge
  | _ => none

/-- How the next token takes the expression before it further (`led`). -/
def extend (sub : Reader) (left : Expr) (ts : List Token) : Parsed Expr :=
  match ts with
  | .dot :: .star :: rest => project sub .values Token.star.power left rest
  | .dot :: rest =>
    match afterDot sub Token.dot.power rest with
    | .error fault => .error fault
    | .ok (rhs, rest) => .ok (.subexpr left rhs, rest)
  | .openBracket :: rest => (bracket? sub left rest).getD (refuse .expectedBracketItem rest)
  | .flatten :: rest => project sub .flatten Token.flatten.power left rest
  | .filter :: rest => filter sub left rest
  | .pipe :: rest =>
    match sub Token.pipe.power rest with
    | .error fault => .error fault
    | .ok (rhs, rest) => .ok (.pipe left rhs, rest)
  | .resembles :: .raw pattern :: rest =>
    match Regex.compile? pattern with
    | some regex => .ok (.resembles regex left, rest)
    | none => .error ⟨.badPattern pattern, .raw pattern :: rest⟩
  | .resembles :: rest => refuse .expectedPattern rest
  | t :: rest =>
    match binaryOp? t with
    | some op =>
      match sub op.power rest with
      | .error fault => .error fault
      | .ok (rhs, rest) => .ok (.binary op left rhs, rest)
    | none => refuse .unexpected ts
  | [] => refuse .unexpected ts

mutual

/-- Reads an expression up to the first token that binds no stronger than `power`, within an
allowance of nesting.  `limit` is the whole allowance, which a fault names. -/
def expression (arity? : String → Option Arity) (limit : Nat) :
    Nat → Nat → List Token → Parsed Expr
  | 0, _, ts => .error ⟨.tooDeep limit, ts⟩
  | depth + 1, power, ts =>
    match primary arity? (expression arity? limit depth) ts with
    | .error fault => .error fault
    | .ok (left, rest) => chain arity? limit depth power left rest

/-- Takes `left` further while the next token binds stronger than `power`; each step takes one from
the allowance. -/
def chain (arity? : String → Option Arity) (limit : Nat) :
    Nat → Nat → Expr → List Token → Parsed Expr
  | depth, power, left, ts =>
    if Token.nextPower ts ≤ power then .ok (left, ts)
    else
      match depth with
      | 0 => .error ⟨.tooDeep limit, ts⟩
      | depth + 1 =>
        match extend (expression arity? limit depth) left ts with
        | .error fault => .error fault
        | .ok (left, rest) => chain arity? limit depth power left rest

end

/-- The expression that all the tokens make up. -/
def whole (arity? : String → Option Arity) (limit : Nat) (ts : List Token) : Except Fault Expr :=
  match expression arity? limit limit 0 ts with
  | .error fault => .error fault
  | .ok (e, []) => .ok e
  | .ok (_, rest) => .error ⟨.unexpected rest.head?, rest⟩

end Grammar

namespace Expr

/-- The expression of a text, with calls checked against `arity?` and nesting against `limit`. -/
def parse (arity? : String → Option Arity) (limit : Nat) (text : String) :
    Except ParseError Expr :=
  match TokenRow.ofText text with
  | .error e => .error e
  | .ok row =>
    match Grammar.whole arity? limit row.tokens with
    | .error fault => .error ⟨fault.cause, row.place fault.rest.length⟩
    | .ok e => .ok e

end Expr

end JsonQuery
