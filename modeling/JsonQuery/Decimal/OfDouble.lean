import JsonQuery.Decimal

/-!
# The decimal view of a double

* `Decimal.ofDouble?` — a double as a decimal of about fifteen to sixteen digits.  A double of
  positive exponent is an integer and is taken exactly, if it is below 2^96.  From 2^96 on there is no
  view: the mantissa is doubled once for each power of two, and the conversion gives up when 96 bits have
  no room for the next doubling.  A double of negative exponent has its binary places turned into decimal
  ones, as far as 96 bits allow, and the result is shortened to 28 places and to a mantissa below 2^52,
  each dropped digit rounding half up.
-/

namespace JsonQuery.Decimal

/-- Turns `n` binary places into decimal ones: an even mantissa is halved, an odd one multiplied by
five, or halved with loss when 96 bits have no room for the product.  `k` counts the places. -/
def absorb : Nat → Nat → Nat → Nat × Nat
  | 0, m, k => (m, k)
  | n + 1, m, k =>
    if m % 2 = 1 ∧ 5 * m < Nat.pow 2 96 then absorb n (5 * m) k else absorb n (m / 2) (k - 1)

/-- Drops `n` digits, one at a time, each rounding half up; a mantissa below ten becomes zero. -/
def dropPlaces : Nat → Nat → Nat
  | 0, m => m
  | n + 1, m => if m < 10 then 0 else dropPlaces n (Double.roundHalfUp m 10)

/-- Drops places, each rounding half up, until the mantissa is below 2^52 or no place is left. -/
def shorten : Nat → Nat → Nat × Nat
  | m, 0 => (m, 0)
  | m, k + 1 => if m < Nat.pow 2 52 then (m, k + 1) else shorten (Double.roundHalfUp m 10) k

/-- A double as a decimal; none when it is 2^96 or more in magnitude, where 96 bits run out of room while
the mantissa is doubled. -/
def ofDouble? (x : Double) : Option Decimal :=
  if x.isZero then some { zero with negative := x.negative }
  else if 0 ≤ x.exponent then ofParts? x.negative (x.mantissa * Nat.pow 2 x.exponent.toNat) 0
  else
    let n := (-x.exponent).toNat
    let (m, k) := absorb n x.mantissa n
    let (m, k) := shorten (dropPlaces (k - 28) m) (min k 28)
    let (m, k) := strip m k
    ofParts? x.negative m k

end JsonQuery.Decimal
