import JsonQuery.Eval.Traced
import JsonQuery.Expr

/-!
# Arguments of functions

* `Argument` — a value, or an expression together with the way to evaluate it on a value.
* `Argument.asJson`, `asReference`, `asArray`, `asObject`, `asString`, `asNumber` — an argument of
  a given type, or the fault that it has another.
* `Body` — what a function does with its arguments.
-/

namespace JsonQuery

/-- What is handed to a function: a value, or an expression that is still to be evaluated. -/
inductive Argument where
  | value (v : Json)
  | reference (body : Expr) (run : Json → Traced Json)

/-- What a function does with its arguments. -/
abbrev Body := List Argument → Traced Json

/-- A body that evaluates no reference. -/
def Body.plain (f : List Argument → Except Failure Json) : Body := fun args => .ofExcept (f args)

namespace Argument

/-- The type of an argument; an expression has none. -/
def kind? : Argument → Option Kind
  | value v => some v.kind
  | reference _ _ => none

/-- The argument at a place. -/
def nth (args : List Argument) (i : Nat) : Except Failure Argument :=
  match args[i]? with
  | some a => .ok a
  | none => .error (.type .missingArgument)

/-- The fault that an argument is not what is wanted. -/
def mismatch {α : Type} (wanted : String) (a : Argument) : Except Failure α :=
  .error (.type (.found wanted a.kind?))

/-- The argument as a value. -/
def asJson : Argument → Except Failure Json
  | value v => .ok v
  | a => a.mismatch "a JSON value"

/-- The argument as an expression. -/
def asReference : Argument → Except Failure (Expr × (Json → Traced Json))
  | reference body run => .ok (body, run)
  | a => a.mismatch "expression"

/-- The argument as an array. -/
def asArray : Argument → Except Failure (List Json)
  | value (.array items) => .ok items
  | a => a.mismatch "array"

/-- The argument as an object. -/
def asObject : Argument → Except Failure Json.Members
  | value (.object members) => .ok members
  | a => a.mismatch "object"

/-- The argument as a string. -/
def asString : Argument → Except Failure String
  | value (.string s) => .ok s
  | a => a.mismatch "string"

/-- The argument as a number. -/
def asNumber : Argument → Except Failure Number
  | value (.number n) => .ok n
  | a => a.mismatch "number"

end Argument

end JsonQuery
