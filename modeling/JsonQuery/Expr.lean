import JsonQuery.Expr.Slice
import JsonQuery.Json
import JsonQuery.Regex

/-!
# Query expressions

* `BinaryOp`, `Projection` — the infix operators and the plain kinds of projection.
* `Expr` — a query as a tree.
* `Expr.same` — equality of two trees; literals tell an integer from a double, and patterns are
  equal if their texts are.
* `Expr.height` — the number of nodes on the longest way from the root to a leaf.
-/

namespace JsonQuery

/-- The infix operators with a value on either side. -/
inductive BinaryOp where
  | or | and | eq | ne | lt | le | gt | ge
deriving DecidableEq, Repr

/-- What a projection takes its elements from. -/
inductive Projection where
  | values
  | list
  | flatten
  | slice (bounds : Slice)
deriving DecidableEq

/-- A query as a tree. -/
inductive Expr where
  | current
  | identifier (name : String)
  | index (place : Int64)
  | literal (value : Json)
  | subexpr (lhs rhs : Expr)
  | pipe (lhs rhs : Expr)
  | project (kind : Projection) (lhs rhs : Expr)
  | filter (predicate lhs rhs : Expr)
  | multiList (items : List Expr)
  | multiHash (pairs : List (String × Expr))
  | call (name : String) (args : List Expr)
  | reference (body : Expr)
  | binary (op : BinaryOp) (lhs rhs : Expr)
  | not (operand : Expr)
  | resembles (pattern : Regex) (operand : Expr)

namespace BinaryOp

/-- How strongly an operator binds. -/
def power : BinaryOp → Nat
  | or => 2
  | and => 3
  | _ => 5

/-- The sign of an operator. -/
def sign : BinaryOp → String
  | or => "||"
  | and => "&&"
  | eq => "=="
  | ne => "!="
  | lt => "<"
  | le => "<="
  | gt => ">"
  | ge => ">="

/-- The result of a test on the order of two values, null if they have none. -/
def test (accept : Ordering → Bool) (a b : Json) : Json :=
  match a.compare b with
  | some o => .bool (accept o)
  | none => .null

/-- The value of an operator on two values. -/
def apply : BinaryOp → Json → Json → Json
  | or, a, b => if a.isTruthy then a else b
  | and, a, b => if a.isTruthy then b else a
  | eq, a, b => .bool (a.equal b)
  | ne, a, b => .bool (!a.equal b)
  | lt, a, b => test (· == .lt) a b
  | le, a, b => test (· != .gt) a b
  | gt, a, b => test (· == .gt) a b
  | ge, a, b => test (· != .lt) a b

end BinaryOp

namespace Expr

/-! ## Equality -/

mutual

/-- Equality of two trees. -/
def same : Expr → Expr → Bool
  | .current, .current => true
  | .identifier a, .identifier b => a == b
  | .index a, .index b => a == b
  | .literal a, .literal b => a.same b
  | .subexpr a b, .subexpr c d => same a c && same b d
  | .pipe a b, .pipe c d => same a c && same b d
  | .project k a b, .project l c d => k == l && same a c && same b d
  | .filter p a b, .filter q c d => same p q && same a c && same b d
  | .multiList a, .multiList b => sameItems a b
  | .multiHash a, .multiHash b => samePairs a b
  | .call f a, .call g b => f == g && sameItems a b
  | .reference a, .reference b => same a b
  | .binary o a b, .binary p c d => o == p && same a c && same b d
  | .not a, .not b => same a b
  | .resembles p a, .resembles q b => p.source == q.source && same a b
  | _, _ => false

/-- Equality of two lists of trees. -/
def sameItems : List Expr → List Expr → Bool
  | [], [] => true
  | a :: as, b :: bs => same a b && sameItems as bs
  | _, _ => false

/-- Equality of two lists of named trees. -/
def samePairs : List (String × Expr) → List (String × Expr) → Bool
  | [], [] => true
  | (k, a) :: as, (l, b) :: bs => k == l && same a b && samePairs as bs
  | _, _ => false

end

/-! ## Height -/

mutual

/-- The number of nodes on the longest way from the root to a leaf. -/
def height : Expr → Nat
  | .current | .identifier _ | .index _ | .literal _ => 1
  | .subexpr a b | .pipe a b | .project _ a b | .binary _ a b => 1 + max (height a) (height b)
  | .filter p a b => 1 + max (height p) (max (height a) (height b))
  | .multiList items => 1 + heightItems items
  | .multiHash pairs => 1 + heightPairs pairs
  | .call _ args => 1 + heightItems args
  | .reference a | .not a | .resembles _ a => 1 + height a

/-- The greatest height in a list of trees. -/
def heightItems : List Expr → Nat
  | [] => 0
  | a :: rest => max (height a) (heightItems rest)

/-- The greatest height in a list of named trees. -/
def heightPairs : List (String × Expr) → Nat
  | [] => 0
  | (_, a) :: rest => max (height a) (heightPairs rest)

end

end Expr

end JsonQuery
