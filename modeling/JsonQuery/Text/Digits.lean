/-!
# Decimal digits

* `Text.isDigit` — the ten digits.
* `Text.ofDigits` — the number that a row of digits writes.
* `Text.writeNat`, `Text.writeInt` — the decimal numeral of a number.
* `Text.spanDigits` — the digits at the start of a text, and the rest.
-/

namespace JsonQuery.Text

/-- The ten digits. -/
def isDigit (c : Char) : Bool := '0' ≤ c && c ≤ '9'

/-- The value of a digit. -/
def digitValue (c : Char) : Nat := c.toNat - '0'.toNat

/-- The number that a row of digits writes. -/
def ofDigits (cs : List Char) : Nat := cs.foldl (fun n c => 10 * n + digitValue c) 0

/-- The decimal numeral of a natural number. -/
def writeNat (n : Nat) : List Char := Nat.toDigits 10 n

/-- The decimal numeral of an integer. -/
def writeInt (i : Int) : List Char := if i < 0 then '-' :: writeNat i.natAbs else writeNat i.natAbs

/-- The digits at the start of a text, and the rest. -/
def spanDigits (cs : List Char) : List Char × List Char :=
  (cs.takeWhile isDigit, cs.dropWhile isDigit)

theorem spanDigits_append (cs : List Char) : (spanDigits cs).1 ++ (spanDigits cs).2 = cs :=
  List.takeWhile_append_dropWhile

/-- A row of digits with a power of ten: what is written `whole.fraction e exponent`. -/
structure Scientific where
  whole : List Char
  fraction : List Char
  exponent : Int

namespace Scientific

/-- All digits as one number. -/
def digits (s : Scientific) : Nat := ofDigits (s.whole ++ s.fraction)

/-- The power of ten of the last digit. -/
def lastPower (s : Scientific) : Int := s.exponent - s.fraction.length

end Scientific

/-- The exponent at the start of a text, with the rest: a mark, a sign or none, and digits.
None stands for a mark without digits; without a mark the exponent is zero. -/
def readExponent? : List Char → Option (Int × List Char)
  | [] => some (0, [])
  | c :: cs =>
    if c = 'e' ∨ c = 'E' then
      let (negative, body) := match cs with
        | '-' :: r => (true, r)
        | '+' :: r => (false, r)
        | r => (false, r)
      let (digits, rest) := spanDigits body
      if digits.isEmpty then none
      else some (if negative then -(ofDigits digits : Int) else ofDigits digits, rest)
    else some (0, c :: cs)

end JsonQuery.Text
