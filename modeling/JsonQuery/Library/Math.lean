import JsonQuery.Number.Arithmetic
import JsonQuery.Registry

/-!
# Functions on numbers

* `Library.numbers` — the numbers of a list that is not empty and holds nothing else.
* `Library.math` — `abs`, `avg`, `ceil`, `floor` and `sum`.
-/

namespace JsonQuery.Library

/-- The numbers of a list that is not empty and holds nothing else. -/
def numbers (caller : String) (items : List Json) : Except Failure (List Number) :=
  if items.isEmpty then .error (.type (.noNumbers caller))
  else items.mapM fun
    | .number n => .ok n
    | v => .error (.type (.expects caller "an array of numbers" v.kind))

/-- A function of one number. -/
def ofNumber (f : Number → Option Number) : Body := .plain fun args => do
  let n ← (← Argument.nth args 0).asNumber
  return .ofNumber? (f n)

/-- A function of an array of numbers. -/
def ofNumbers (caller : String) (f : List Number → Option Number) : Body := .plain fun args => do
  let items ← (← Argument.nth args 0).asArray
  let ns ← numbers caller items
  return .ofNumber? (f ns)

/-- The functions on numbers. -/
def math : List Function :=
  [⟨"abs", [], .fixed 1, ofNumber Number.abs⟩,
   ⟨"avg", [], .fixed 1, ofNumbers "avg" Number.avg⟩,
   ⟨"ceil", [], .fixed 1, ofNumber Number.ceil⟩,
   ⟨"floor", [], .fixed 1, ofNumber Number.floor⟩,
   ⟨"sum", [], .fixed 1, ofNumbers "sum" Number.sum⟩]

end JsonQuery.Library
