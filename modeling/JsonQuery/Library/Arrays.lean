import JsonQuery.Registry
import JsonQuery.Text.Grapheme

/-!
# Functions on arrays

* `Library.comparable` — checks that values are all numbers or all strings.
* `Library.sortOn` — a stable sort of items by keys.
* `Library.extreme?` — the first item whose key is extreme.
* `Library.arrays` — `map`, `max`, `max_by`, `min`, `min_by`, `not_null`, `reverse`, `sort`,
  `sort_by` and `to_array`.
-/

namespace JsonQuery.Library

/-! ## Order -/

/-- Whether values of a type can be put in order. -/
def isOrdered (k : Kind) : Bool := k == .number || k == .string

/-- Checks that values are all numbers or all strings; the first that is not is at fault
(`ensure_comparable`). -/
def comparable (caller : String) : List Json → Except Failure Unit
  | [] => .ok ()
  | v :: rest =>
    match if isOrdered v.kind then rest.find? (·.kind != v.kind) else some v with
    | none => .ok ()
    | some w => .error (.type (.expects caller "all numbers or all strings" w.kind))

/-- The order of two values, those without one counting as equal (`ordering`). -/
def order (a b : Json) : Ordering := (a.compare b).getD .eq

/-- The items sorted by their keys; items with equal keys keep their order. -/
def sortOn (keyed : List (Json × Json)) : List Json :=
  (keyed.mergeSort fun a b => order a.1 b.1 != .gt).map Prod.snd

/-- The first item whose key stands in the order `wanted` to all keys before it that did so
(`extreme_index`). -/
def extreme? (wanted : Ordering) : List (Json × Json) → Option Json
  | [] => none
  | first :: rest =>
    some (rest.foldl (fun best x => if x.1.compare best.1 = some wanted then x else best) first).2

/-! ## Bodies -/

/-- The items of an array, each with itself as its key. -/
def ownKeys (caller : String) (args : List Argument) : Except Failure (List (Json × Json)) := do
  let items ← (← Argument.nth args 0).asArray
  comparable caller items
  return items.map fun v => (v, v)

/-- The values of a reference on the items of a list. -/
def mapItems (run : Json → Traced Json) : List Json → Traced (List Json)
  | [] => pure []
  | v :: rest => do
    let w ← run v
    let ws ← mapItems run rest
    return w :: ws

/-- The items of an array, each with the value of a reference as its key (`evaluate_keys`). -/
def keysBy (caller : String) (args : List Argument) : Traced (List (Json × Json)) := do
  let items ← .ofExcept do (← Argument.nth args 0).asArray
  let (_, run) ← .ofExcept do (← Argument.nth args 1).asReference
  let keys ← mapItems run items
  .ofExcept (comparable caller keys)
  return keys.zip items

/-- The extreme item of an array, null if it is empty (`extreme`). -/
def extreme (caller : String) (wanted : Ordering) : Body := .plain fun args => do
  let keyed ← ownKeys caller args
  return (extreme? wanted keyed).getD .null

/-- The item of an array with the extreme key, null if it is empty (`extreme_by`). -/
def extremeBy (caller : String) (wanted : Ordering) : Body := fun args => do
  let keyed ← keysBy caller args
  return (extreme? wanted keyed).getD .null

/-- An array in order. -/
def sort : Body := .plain fun args => do
  return .array (sortOn (← ownKeys "sort" args))

/-- An array in the order of its keys. -/
def sortBy : Body := fun args => do
  return .array (sortOn (← keysBy "sort_by" args))

/-- The values of a reference on the items of an array. -/
def map : Body := fun args => do
  let (_, run) ← .ofExcept do (← Argument.nth args 0).asReference
  let items ← .ofExcept do (← Argument.nth args 1).asArray
  return .array (← mapItems run items)

/-- An array from its end, or a string from its last grapheme cluster. -/
def reverse : Body := .plain fun args => do
  match ← (← Argument.nth args 0).asJson with
  | .string s => return .string (String.ofList (Text.clusters s.toList).reverse.flatten)
  | .array items => return .array items.reverse
  | v => .error (.type (.expects "reverse" "a string or an array" v.kind))

/-- An array as it is, any other value as an array of one. -/
def toArray : Body := .plain fun args => do
  match ← (← Argument.nth args 0).asJson with
  | .array items => return .array items
  | v => return .array [v]

/-- The first argument that is not null. -/
def firstNotNull : List Argument → Except Failure Json
  | [] => .ok .null
  | a :: rest => do
    let v ← a.asJson
    if v.isNull then firstNotNull rest else return v

/-- The functions on arrays. -/
def arrays : List Function :=
  [⟨"map", [], .fixed 2, map⟩,
   ⟨"max", [], .fixed 1, extreme "max" .gt⟩,
   ⟨"max_by", [], .fixed 2, extremeBy "max_by" .gt⟩,
   ⟨"min", [], .fixed 1, extreme "min" .lt⟩,
   ⟨"min_by", [], .fixed 2, extremeBy "min_by" .lt⟩,
   ⟨"not_null", [], .variadic 1, .plain firstNotNull⟩,
   ⟨"reverse", [], .fixed 1, reverse⟩,
   ⟨"sort", [], .fixed 1, sort⟩,
   ⟨"sort_by", [], .fixed 2, sortBy⟩,
   ⟨"to_array", [], .fixed 1, toArray⟩]

end JsonQuery.Library
