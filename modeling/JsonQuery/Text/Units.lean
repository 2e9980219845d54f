/-!
# UTF-16 code units

* `Text.units` — the 16-bit units of a text: one for a character below U+10000, else a surrogate
  pair.
* `Text.compareUnits` — the order of two texts, unit by unit, a proper beginning first.
* `Text.ofPair` — the character that a high and a low surrogate stand for.
-/

namespace JsonQuery.Text

/-- The first half of a surrogate pair. -/
def isHighSurrogate (u : Nat) : Bool := 0xD800 ≤ u && u < 0xDC00

/-- The second half of a surrogate pair. -/
def isLowSurrogate (u : Nat) : Bool := 0xDC00 ≤ u && u < 0xE000

/-- The code point that a surrogate pair stands for. -/
def ofPair (high low : Nat) : Nat := 0x10000 + (high - 0xD800) * 0x400 + (low - 0xDC00)

/-- The units of one character. -/
def unitsOfChar (c : Char) : List Nat :=
  let n := c.toNat
  if n < 0x10000 then [n]
  else [0xD800 + (n - 0x10000) / 0x400, 0xDC00 + (n - 0x10000) % 0x400]

/-- The 16-bit units of a text. -/
def units (s : String) : List Nat := s.toList.flatMap unitsOfChar

/-- The order of two lists of numbers by their first difference, a proper beginning first. -/
def compareLists : List Nat → List Nat → Ordering
  | [], [] => .eq
  | [], _ :: _ => .lt
  | _ :: _, [] => .gt
  | a :: as, b :: bs => (compare a b).then (compareLists as bs)

/-- The order of two texts by their UTF-16 units (`compare_strings`). -/
def compareUnits (s t : String) : Ordering := compareLists (units s) (units t)

/-- The value of a hexadecimal digit, in either case. -/
def hexValue? (c : Char) : Option Nat :=
  if '0' ≤ c ∧ c ≤ '9' then some (c.toNat - '0'.toNat)
  else if 'a' ≤ c ∧ c ≤ 'f' then some (c.toNat - 'a'.toNat + 10)
  else if 'A' ≤ c ∧ c ≤ 'F' then some (c.toNat - 'A'.toNat + 10)
  else none

/-- The value of four hexadecimal digits. -/
def hexQuad? (a b c d : Char) : Option Nat := do
  return 0x1000 * (← hexValue? a) + 0x100 * (← hexValue? b) + 0x10 * (← hexValue? c) +
    (← hexValue? d)

/-- The character with a code point, unless the number is a surrogate or too large. -/
def charOf? (n : Nat) : Option Char := if n.isValidChar then some (Char.ofNat n) else none

end JsonQuery.Text
