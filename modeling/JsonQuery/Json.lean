import JsonQuery.Number
import JsonQuery.Text.Units

/-!
# JSON values

* `Json` — a value; an object is its members in order.
* `Json.insert` — sets a member: in place if the key is there, else at the end.
* `Json.isTruthy`, `Json.kind` — truth and type.
* `Json.equal` — equality with numbers by value and objects as maps.
* `Json.same` — the same, but an integer is never equal to a double.
* `Json.compare` — the order of two numbers or two strings; all other pairs have none.
* `Json.KeysUnique` — every object in a value has each key once.
-/

namespace JsonQuery

/-- The types of JSON values. -/
inductive Kind where
  | null | boolean | number | string | array | object
deriving DecidableEq, Repr

/-- The name of a type. -/
def Kind.name : Kind → String
  | .null => "null"
  | .boolean => "boolean"
  | .number => "number"
  | .string => "string"
  | .array => "array"
  | .object => "object"

/-- A JSON value. -/
inductive Json where
  | null
  | bool (value : Bool)
  | number (value : Number)
  | string (value : String)
  | array (items : List Json)
  | object (members : List (String × Json))

namespace Json

/-- The members of an object, in order. -/
abbrev Members := List (String × Json)

/-- Sets a member: in place if the key is there, else at the end. -/
def insert (key : String) (value : Json) : Members → Members
  | [] => [(key, value)]
  | (k, v) :: rest => if k = key then (key, value) :: rest else (k, v) :: insert key value rest

/-- The object with these members, a repeated key keeping its first place and its last value. -/
def ofMembers (members : Members) : Json :=
  .object (members.foldl (fun acc m => insert m.1 m.2 acc) [])

/-- The number, or null where there is none. -/
def ofNumber? : Option Number → Json
  | some n => .number n
  | none => .null

/-- Whether a value is null. -/
def isNull : Json → Bool
  | .null => true
  | _ => false

/-- The type of a value. -/
def kind : Json → Kind
  | .null => .null
  | .bool _ => .boolean
  | .number _ => .number
  | .string _ => .string
  | .array _ => .array
  | .object _ => .object

/-- Truth: null, false and everything empty are false; every number, zero included, is true
(`is_truthy`). -/
def isTruthy : Json → Bool
  | .null => false
  | .bool b => b
  | .number _ => true
  | .string s => !s.isEmpty
  | .array items => !items.isEmpty
  | .object members => !members.isEmpty

/-! ## Equality and order -/

mutual

/-- Equality with numbers compared by `eq`; the order of members does not matter. -/
def equalBy (eq : Number → Number → Bool) : Json → Json → Bool
  | .null, .null => true
  | .bool a, .bool b => a == b
  | .number a, .number b => eq a b
  | .string a, .string b => a == b
  | .array a, .array b => equalItems eq a b
  | .object a, .object b => a.length == b.length && within eq a b
  | _, _ => false

/-- Equality of two lists, item by item. -/
def equalItems (eq : Number → Number → Bool) : List Json → List Json → Bool
  | [], [] => true
  | a :: as, b :: bs => equalBy eq a b && equalItems eq as bs
  | _, _ => false

/-- Whether each of these members has its equal in `b`. -/
def within (eq : Number → Number → Bool) : List (String × Json) → List (String × Json) → Bool
  | [], _ => true
  | (k, v) :: rest, b =>
    (match b.lookup k with
      | some w => equalBy eq v w
      | none => false) && within eq rest b

end

/-- Equality with numbers by value and objects as maps (`json_equal`). -/
def equal : Json → Json → Bool := equalBy Number.equal

/-- Equality that tells an integer from a double. -/
def same : Json → Json → Bool := equalBy Number.same

/-- The order of two numbers or two strings, the latter by UTF-16 units. -/
def compare : Json → Json → Option Ordering
  | .number a, .number b => Number.compare a b
  | .string a, .string b => some (Text.compareUnits a b)
  | _, _ => none

/-! ## Unique keys -/

mutual

/-- Every object in the value has each key once. -/
def KeysUnique : Json → Prop
  | .array items => KeysUniqueItems items
  | .object members => (members.map Prod.fst).Nodup ∧ KeysUniqueMembers members
  | _ => True

/-- Every object in each of these values has each key once. -/
def KeysUniqueItems : List Json → Prop
  | [] => True
  | v :: rest => KeysUnique v ∧ KeysUniqueItems rest

/-- Every object in each of these members has each key once. -/
def KeysUniqueMembers : List (String × Json) → Prop
  | [] => True
  | (_, v) :: rest => KeysUnique v ∧ KeysUniqueMembers rest

end

theorem mem_keys_insert (key : String) (value : Json) (members : Members) (k : String) :
    k ∈ (insert key value members).map Prod.fst ↔ k = key ∨ k ∈ members.map Prod.fst := by
  induction members with
  | nil => simp [insert]
  | cons m rest ih =>
    obtain ⟨k', v'⟩ := m
    simp only [insert]
    split
    · rename_i h; subst h; simp
    · simp only [List.map_cons, List.mem_cons, ih]
      constructor
      · rintro (h | h | h) <;> simp [h]
      · rintro (h | h | h) <;> simp [h]

/-- Setting a member keeps the keys unique. -/
theorem nodup_keys_insert (key : String) (value : Json) {members : Members}
    (h : (members.map Prod.fst).Nodup) : ((insert key value members).map Prod.fst).Nodup := by
  induction members with
  | nil => simp [insert]
  | cons m rest ih =>
    obtain ⟨k', v'⟩ := m
    simp only [List.map_cons, List.nodup_cons] at h
    simp only [insert]
    split
    · rename_i hk; subst hk; simp only [List.map_cons, List.nodup_cons]; exact h
    · rename_i hk
      simp only [List.map_cons, List.nodup_cons, mem_keys_insert]
      exact ⟨fun hm => hm.elim hk h.1, ih h.2⟩

end Json

end JsonQuery
