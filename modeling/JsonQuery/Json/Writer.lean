import JsonQuery.Json
import JsonQuery.Double.Shortest
import JsonQuery.Text.Digits

/-!
# JSON text, written

* `Json.doubleLayout` — how a double is laid out in JSON text.
* `Json.write`, `Json.compact` — the text without spaces.
* `Json.writeIndented`, `Json.pretty` — one item or member a line, indented by two spaces a level;
  empty arrays and objects stay on one line.
-/

namespace JsonQuery.Json

/-! ## Leaves -/

/-- Doubles are written positionally from 10^-5 up to below 10^16 and with an exponent otherwise. -/
def doubleLayout : Double.Layout := ⟨-5, 15⟩

/-- A lower-case hexadecimal digit. -/
def hexDigit (n : Nat) : Char := if n < 10 then Char.ofNat (48 + n) else Char.ofNat (87 + n)

/-- A character inside a string: quotes, backslashes and controls are escaped. -/
def escapeChar (c : Char) : List Char :=
  if c = '"' then ['\\', '"']
  else if c = '\\' then ['\\', '\\']
  else if c = '\n' then ['\\', 'n']
  else if c = '\r' then ['\\', 'r']
  else if c = '\t' then ['\\', 't']
  else if c.toNat = 0x08 then ['\\', 'b']
  else if c.toNat = 0x0C then ['\\', 'f']
  else if c.toNat < 0x20 then
    ['\\', 'u', '0', '0', hexDigit (c.toNat / 16), hexDigit (c.toNat % 16)]
  else [c]

/-- A string in quotes. -/
def writeString (s : String) : List Char := '"' :: (s.toList.flatMap escapeChar ++ ['"'])

/-- A number. -/
def writeNumber : Number → List Char
  | .integer i _ => Text.writeInt i
  | .double x => x.write doubleLayout

/-! ## Without spaces -/

mutual

/-- The text of a value without spaces. -/
def write : Json → List Char
  | .null => ['n', 'u', 'l', 'l']
  | .bool true => ['t', 'r', 'u', 'e']
  | .bool false => ['f', 'a', 'l', 's', 'e']
  | .number n => writeNumber n
  | .string s => writeString s
  | .array [] => ['[', ']']
  | .array (v :: rest) => '[' :: (write v ++ writeItems rest)
  | .object [] => ['{', '}']
  | .object ((k, v) :: rest) => '{' :: (writeString k ++ ':' :: (write v ++ writeMembers rest))

/-- The further items of an array, and its end. -/
def writeItems : List Json → List Char
  | [] => [']']
  | v :: rest => ',' :: (write v ++ writeItems rest)

/-- The further members of an object, and its end. -/
def writeMembers : List (String × Json) → List Char
  | [] => ['}']
  | (k, v) :: rest => ',' :: (writeString k ++ ':' :: (write v ++ writeMembers rest))

end

/-- The text of a value without spaces. -/
def compact (v : Json) : String := String.ofList (write v)

/-! ## One item a line -/

/-- A line break and the indentation of a level. -/
def newline (level : Nat) : List Char := '\n' :: List.replicate (2 * level) ' '

mutual

/-- The text of a value that stands at a level of indentation. -/
def writeIndented (level : Nat) : Json → List Char
  | .array (v :: rest) =>
    '[' :: (newline (level + 1) ++ writeIndented (level + 1) v ++ indentItems level rest)
  | .object ((k, v) :: rest) =>
    '{' :: (newline (level + 1) ++ writeString k ++ ':' :: ' ' ::
      (writeIndented (level + 1) v ++ indentMembers level rest))
  | v => write v

/-- The further items of an array, and its end. -/
def indentItems (level : Nat) : List Json → List Char
  | [] => newline level ++ [']']
  | v :: rest =>
    ',' :: (newline (level + 1) ++ writeIndented (level + 1) v ++ indentItems level rest)

/-- The further members of an object, and its end. -/
def indentMembers (level : Nat) : List (String × Json) → List Char
  | [] => newline level ++ ['}']
  | (k, v) :: rest =>
    ',' :: (newline (level + 1) ++ writeString k ++ ':' :: ' ' ::
      (writeIndented (level + 1) v ++ indentMembers level rest))

end

/-- The text of a value with one item or member a line. -/
def pretty (v : Json) : String := String.ofList (writeIndented 0 v)

end JsonQuery.Json
