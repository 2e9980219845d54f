/-!
# Argument counts

* `Arity` — how many arguments a function takes.
* `Arity.accepts` — whether a count is right.
* `Arity.mismatch` — the message for a wrong count.
-/

namespace JsonQuery

/-- How many arguments a function takes. -/
inductive Arity where
  | fixed (count : Nat)
  | variadic (least : Nat)
deriving DecidableEq, Repr

namespace Arity

/-- Whether a count of arguments is right. -/
def accepts : Arity → Nat → Bool
  | fixed n, count => count == n
  | variadic n, count => n ≤ count

/-- A number of arguments in words. -/
def arguments (n : Nat) : String := toString n ++ (if n = 1 then " argument" else " arguments")

/-- The message for a wrong count of arguments. -/
def mismatch (name : String) (arity : Arity) (count : Nat) : String :=
  "Function \"" ++ name ++ "\" expects " ++
    (match arity with
      | fixed n => arguments n
      | variadic n => "at least " ++ arguments n) ++
    ", got " ++ toString count

end Arity

end JsonQuery
