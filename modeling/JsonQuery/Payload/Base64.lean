/-!
# Base64

* `Base64.decode?` — the bytes of a text in the standard alphabet.  Every four characters give
  three bytes; the last group is padded with one or two equals signs, and the bits that the padding
  leaves over must be zero.
-/

namespace JsonQuery.Base64

/-- The value of a character of the alphabet. -/
def sextet? (c : Char) : Option Nat :=
  if 'A' ≤ c ∧ c ≤ 'Z' then some (c.toNat - 'A'.toNat)
  else if 'a' ≤ c ∧ c ≤ 'z' then some (c.toNat - 'a'.toNat + 26)
  else if '0' ≤ c ∧ c ≤ '9' then some (c.toNat - '0'.toNat + 52)
  else if c = '+' then some 62
  else if c = '/' then some 63
  else none

/-- The bytes of a padded last group, if the bits left over are zero. -/
def lastGroup? (a b c : Char) : Option (List UInt8) := do
  let x ← sextet? a
  let y ← sextet? b
  if c = '=' then
    if y % 16 = 0 then some [UInt8.ofNat (4 * x + y / 16)] else none
  else
    let z ← sextet? c
    if z % 4 = 0 then some [UInt8.ofNat (4 * x + y / 16), UInt8.ofNat (16 * (y % 16) + z / 4)]
    else none

/-- The three bytes of a full group. -/
def group? (a b c d : Char) : Option (List UInt8) := do
  let x ← sextet? a
  let y ← sextet? b
  let z ← sextet? c
  let w ← sextet? d
  return [UInt8.ofNat (4 * x + y / 16), UInt8.ofNat (16 * (y % 16) + z / 4),
    UInt8.ofNat (64 * (z % 4) + w)]

/-- The bytes of a text. -/
def decode? : List Char → Option (List UInt8)
  | [] => some []
  | [a, b, c, '='] => lastGroup? a b c
  | a :: b :: c :: d :: rest => do
    let bytes ← group? a b c d
    let more ← decode? rest
    return bytes ++ more
  | _ => none

end JsonQuery.Base64
