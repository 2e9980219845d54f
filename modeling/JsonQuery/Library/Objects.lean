import JsonQuery.Registry

/-!
# Functions on objects

* `Library.mergeAll` — the members of several objects, as if set one after another.
* `Library.objects` — `keys`, `merge` and `values`.
-/

namespace JsonQuery.Library

/-- The keys of an object. -/
def keys : Body := .plain fun args => do
  let members ← (← Argument.nth args 0).asObject
  return .array (members.map fun m => .string m.1)

/-- The values of an object. -/
def values : Body := .plain fun args => do
  let members ← (← Argument.nth args 0).asObject
  return .array (members.map Prod.snd)

/-- The members of several objects, as if set one after another. -/
def mergeAll (objects : List Json.Members) : Json := .ofMembers objects.flatten

/-- Several objects as one. -/
def merge : Body := .plain fun args => do
  return mergeAll (← args.mapM Argument.asObject)

/-- The functions on objects. -/
def objects : List Function :=
  [⟨"keys", [], .fixed 1, keys⟩,
   ⟨"merge", [], .variadic 1, merge⟩,
   ⟨"values", [], .fixed 1, values⟩]

end JsonQuery.Library
