import JsonQuery.Registry

/-!
# Evaluation

* `Projection.select` — the elements that a projection takes from a value.
* `Eval.collect` — maps over the elements that are not null and drops results that are null.
* `Eval.keep` — the elements that are not null and pass a test.
* `Expr.eval` — the value of an expression on the current value, with the functions of a registry.

A failure ends an evaluation, except that a soft failure of a function body becomes null.  Elements
are evaluated in order and the first failure wins.
-/

namespace JsonQuery

/-- The item at a place, counted from the back if the place is below zero (`resolve_index`). -/
def Eval.item? (items : List Json) (place : Int64) : Option Json :=
  let i := place.toInt
  let j := if i < 0 then i + items.length else i
  if j < 0 then none else items[j.toNat]?

/-- The member of an object, null for a missing one and for all other values. -/
def Eval.member (name : String) : Json → Json
  | .object members => (members.lookup name).getD .null
  | _ => .null

/-- The elements that a projection takes from a value; none if the value is of another type
(`select`). -/
def Projection.select : Projection → Json → Except Failure (Option (List Json))
  | .values, .object members => .ok (some (members.map Prod.snd))
  | .list, .array items => .ok (some items)
  | .flatten, .array items =>
    .ok (some (items.flatMap fun
      | .array inner => inner
      | v => [v]))
  | .slice s, .array items =>
    match s.select? items with
    | some selected => .ok (some selected)
    | none => .error .zeroStep
  | _, _ => .ok none

namespace Eval

/-- The values of `f` on the elements that are not null, without those that are null. -/
def collect (f : Json → Traced Json) : List Json → Traced (List Json)
  | [] => pure []
  | v :: rest =>
    if v.isNull then collect f rest
    else do
      let w ← f v
      let ws ← collect f rest
      pure (if w.isNull then ws else w :: ws)

/-- The elements that are not null and for which `test` gives a true value. -/
def keep (test : Json → Traced Json) : List Json → Traced (List Json)
  | [] => pure []
  | v :: rest =>
    if v.isNull then keep test rest
    else do
      let b ← test v
      let vs ← keep test rest
      pure (if b.isTruthy then v :: vs else vs)

/-- Calls the function of a name; a soft failure of its body becomes null (`call_function`). -/
def call (r : Registry) (name : String) (count : Nat) (args : Traced (List Argument)) :
    Traced Json :=
  match r.find? name with
  | none => .fail (.unknownFunction name)
  | some f =>
    if f.arity.accepts count then
      args >>= fun values => (f.body values).absorb .null (.absorbed name)
    else .fail (.arity (f.arity.mismatch name count))

end Eval

namespace Expr

mutual

/-- The value of an expression on the current value (`interpret`). -/
def eval (r : Registry) : Expr → Json → Traced Json
  | .current, v => pure v
  | .identifier name, v => pure (Eval.member name v)
  | .index place, .array items => pure ((Eval.item? items place).getD .null)
  | .index _, _ => pure .null
  | .literal value, _ => pure value
  | .subexpr lhs rhs, v => eval r lhs v >>= eval r rhs
  | .pipe lhs rhs, v => eval r lhs v >>= eval r rhs
  | .project kind lhs rhs, v => do
    let left ← eval r lhs v
    match ← Traced.ofExcept (kind.select left) with
    | none => pure .null
    | some elements => return .array (← Eval.collect (eval r rhs) elements)
  | .filter predicate lhs rhs, v => do
    match ← eval r lhs v with
    | .array items =>
      let kept ← Eval.keep (eval r predicate) items
      return .array (← Eval.collect (eval r rhs) kept)
    | _ => pure .null
  | .multiList items, v =>
    if v.isNull then pure .null else do return .array (← evalItems r items v)
  | .multiHash pairs, v =>
    if v.isNull then pure .null else do return .ofMembers (← evalPairs r pairs v)
  | .call name args, v => Eval.call r name args.length (evalArguments r args v)
  | .reference _, _ => .fail .strayReference
  | .binary .or lhs rhs, v => do
    let left ← eval r lhs v
    if left.isTruthy then pure left else eval r rhs v
  | .binary .and lhs rhs, v => do
    let left ← eval r lhs v
    if left.isTruthy then eval r rhs v else pure left
  | .binary op lhs rhs, v => do
    let left ← eval r lhs v
    let right ← eval r rhs v
    return op.apply left right
  | .not operand, v => do return .bool !(← eval r operand v).isTruthy
  | .resembles pattern operand, v => do
    match ← eval r operand v with
    | .string s => return .bool (pattern.isMatch s)
    | other => .fail (.type (.expects "regex match" "a string" other.kind))

/-- The values of a list of expressions. -/
def evalItems (r : Registry) : List Expr → Json → Traced (List Json)
  | [], _ => pure []
  | e :: rest, v => do
    let x ← eval r e v
    let xs ← evalItems r rest v
    return x :: xs

/-- The values of named expressions. -/
def evalPairs (r : Registry) : List (String × Expr) → Json → Traced Json.Members
  | [], _ => pure []
  | (key, e) :: rest, v => do
    let x ← eval r e v
    let xs ← evalPairs r rest v
    return (key, x) :: xs

/-- The arguments of a call; a reference is handed over unevaluated. -/
def evalArguments (r : Registry) : List Expr → Json → Traced (List Argument)
  | [], _ => pure []
  | .reference body :: rest, v => do
    let xs ← evalArguments r rest v
    return .reference body (eval r body) :: xs
  | e :: rest, v => do
    let x ← eval r e v
    let xs ← evalArguments r rest v
    return .value x :: xs

end

/-- The expression as an argument, as if written behind an ampersand in a call. -/
def toArgument (r : Registry) (e : Expr) : Argument := .reference e (e.eval r)

end Expr

end JsonQuery
