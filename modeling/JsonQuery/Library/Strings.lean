import JsonQuery.Json.Writer
import JsonQuery.Number.Reader
import JsonQuery.Registry

/-!
# Functions on strings and on types

* `Library.occursIn` — whether one text occurs in another.
* `Library.strings` — `contains`, `ends_with`, `join`, `length`, `starts_with`, `to_number`,
  `to_string` and `type`.
-/

namespace JsonQuery.Library

/-- Whether one text occurs in another. -/
def occursIn (part : List Char) : List Char → Bool
  | [] => part.isEmpty
  | c :: cs => part.isPrefixOf (c :: cs) || occursIn part cs

/-- Whether an array has an equal item, or a string a part. -/
def contains : Body := .plain fun args => do
  match ← (← Argument.nth args 0).asJson with
  | .array items =>
    let wanted ← (← Argument.nth args 1).asJson
    return .bool (items.any (·.equal wanted))
  | .string s =>
    let part ← (← Argument.nth args 1).asString
    return .bool (occursIn part.toList s.toList)
  | v => .error (.type (.expects "contains" "an array or a string" v.kind))

/-- A test on two strings. -/
def ofTwoStrings (test : List Char → List Char → Bool) : Body := .plain fun args => do
  let s ← (← Argument.nth args 0).asString
  let t ← (← Argument.nth args 1).asString
  return .bool (test s.toList t.toList)

/-- The strings of an array with a string between them. -/
def join : Body := .plain fun args => do
  let glue ← (← Argument.nth args 0).asString
  let items ← (← Argument.nth args 1).asArray
  let parts ← items.mapM fun
    | .string s => .ok s
    | v => .error (.type (.expects "join" "an array of strings" v.kind))
  return .string (glue.intercalate parts)

/-- The number of characters, items or members. -/
def length : Body := .plain fun args => do
  match ← (← Argument.nth args 0).asJson with
  | .string s => return .ofNumber? (Number.ofNat s.length)
  | .array items => return .ofNumber? (Number.ofNat items.length)
  | .object members => return .ofNumber? (Number.ofNat members.length)
  | v => .error (.type (.expects "length" "a string, array or object" v.kind))

/-- A string as it is, any other value as its text. -/
def toText : Body := .plain fun args => do
  match ← (← Argument.nth args 0).asJson with
  | .string s => return .string s
  | v => return .string v.compact

/-- A number as it is, a string as the number that it writes. -/
def toNumber : Body := .plain fun args => do
  match ← (← Argument.nth args 0).asJson with
  | .number n => return .number n
  | .string s =>
    match Number.read? s.toList with
    | some n => return .number n
    | none => .error (.type (.notNumeric s))
  | v => .error (.type (.notConvertible v.kind))

/-- The name of the type. -/
def typeName : Body := .plain fun args => do
  match (← Argument.nth args 0).kind? with
  | some kind => return .string kind.name
  | none => .error (.type .untypedReference)

/-- The functions on strings and on types. -/
def strings : List Function :=
  [⟨"contains", [], .fixed 2, contains⟩,
   ⟨"ends_with", [], .fixed 2, ofTwoStrings fun s t => t.isSuffixOf s⟩,
   ⟨"join", [], .fixed 2, join⟩,
   ⟨"length", [], .fixed 1, length⟩,
   ⟨"starts_with", [], .fixed 2, ofTwoStrings fun s t => t.isPrefixOf s⟩,
   ⟨"to_number", [], .fixed 1, toNumber⟩,
   ⟨"to_string", [], .fixed 1, toText⟩,
   ⟨"type", [], .fixed 1, typeName⟩]

end JsonQuery.Library
