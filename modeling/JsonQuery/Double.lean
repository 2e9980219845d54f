/-!
# Finite binary64 numbers, exactly

* `Double` — a sign, a mantissa below 2^53 and a binary exponent, in the one canonical form; both
  zeros are present, infinities and not-a-number are not.
* `Double.toRat` — the exact value.
* `Double.ofRatio?`, `Double.nearest?` — the double nearest to a rational, a tie going to the even
  mantissa; none when the magnitude is too large.
* `Double.add?`, `mul?`, `div?` — the exact result, rounded to the nearest double.
-/

namespace JsonQuery

/-- A mantissa and an exponent in canonical form: full precision unless the exponent is least. -/
def Double.Canonical (mantissa : Nat) (exponent : Int) : Prop :=
  mantissa < Nat.pow 2 53 ∧ -1074 ≤ exponent ∧ exponent ≤ 971 ∧
    (Nat.pow 2 52 ≤ mantissa ∨ exponent = -1074)

instance (m : Nat) (e : Int) : Decidable (Double.Canonical m e) := by
  unfold Double.Canonical; infer_instance

/-- A finite binary64 number `± mantissa · 2 ^ exponent`. -/
structure Double where
  negative : Bool
  mantissa : Nat
  exponent : Int
  canonical : Double.Canonical mantissa exponent
deriving DecidableEq

namespace Double

/-- The double with these parts, if they are canonical. -/
def ofParts? (negative : Bool) (mantissa : Nat) (exponent : Int) : Option Double :=
  if h : Canonical mantissa exponent then some ⟨negative, mantissa, exponent, h⟩ else none

/-- Zero with a sign. -/
def zero (negative : Bool) : Double := ⟨negative, 0, -1074, by decide⟩

/-- A power of two with any exponent. -/
def twoPow (e : Int) : Rat :=
  if 0 ≤ e then (Nat.pow 2 e.toNat : Rat) else 1 / (Nat.pow 2 (-e).toNat : Rat)

/-- The exact value. -/
def toRat (x : Double) : Rat :=
  (if x.negative then -1 else 1) * (x.mantissa : Rat) * twoPow x.exponent

/-- The magnitude as a ratio of natural numbers. -/
def ratio (x : Double) : Nat × Nat :=
  if 0 ≤ x.exponent then (x.mantissa * Nat.pow 2 x.exponent.toNat, 1)
  else (x.mantissa, Nat.pow 2 (-x.exponent).toNat)

/-- Whether the value is zero, of either sign. -/
def isZero (x : Double) : Bool := x.mantissa == 0

/-- The number with its sign dropped. -/
def abs (x : Double) : Double := { x with negative := false }

/-- The number with its sign turned. -/
def neg (x : Double) : Double := { x with negative := !x.negative }

/-! ## Rounding -/

/-- The quotient of two natural numbers rounded to the nearest, a tie going to the even one. -/
def roundHalfEven (num den : Nat) : Nat :=
  let q := num / den
  let r := num % den
  if den < 2 * r ∨ (2 * r = den ∧ q % 2 = 1) then q + 1 else q

/-- The quotient of two natural numbers rounded to the nearest, a tie going up. -/
def roundHalfUp (num den : Nat) : Nat :=
  if den ≤ 2 * (num % den) then num / den + 1 else num / den

/-- The largest `k` with `2 ^ k ≤ num / den`, for a positive quotient. -/
def floorLog2 (num den : Nat) : Int :=
  let k : Int := (num.log2 : Int) - (den.log2 : Int)
  let fits := if 0 ≤ k then den * Nat.pow 2 k.toNat ≤ num else den ≤ num * Nat.pow 2 (-k).toNat
  if fits then k else k - 1

/-- The double nearest to `± num / den`; none when its magnitude rounds past the largest double. -/
def ofRatio? (negative : Bool) (num den : Nat) : Option Double :=
  if num = 0 then some (zero negative)
  else
    let e := max (-1074) (floorLog2 num den - 52)
    let m := if 0 ≤ e then roundHalfEven num (den * Nat.pow 2 e.toNat)
      else roundHalfEven (num * Nat.pow 2 (-e).toNat) den
    if m = Nat.pow 2 53 then ofParts? negative (Nat.pow 2 52) (e + 1) else ofParts? negative m e

/-- The double nearest to a rational; none when the magnitude is too large. -/
def nearest? (q : Rat) : Option Double := ofRatio? (q.num < 0) q.num.natAbs q.den

/-- The double nearest to an integer; none when the magnitude is too large. -/
def ofInt? (i : Int) : Option Double := ofRatio? (i < 0) i.natAbs 1

/-- The double nearest to `± digits · 10 ^ exponent`; none when the magnitude is too large.
Exponents far out of range are decided without computing the power. -/
def ofDecimal? (negative : Bool) (digits : Nat) (exponent : Int) : Option Double :=
  if digits = 0 then some (zero negative)
  else if 0 ≤ exponent then
    if 1024 ≤ digits.log2 + 3 * exponent then none
    else ofRatio? negative (digits * Nat.pow 10 exponent.toNat) 1
  else if digits.log2 + 3 * exponent < -1076 then some (zero negative)
  else ofRatio? negative digits (Nat.pow 10 (-exponent).toNat)

/-! ## Arithmetic -/

/-- The rounded sum; none when it overflows. -/
def add? (x y : Double) : Option Double :=
  if x.isZero && y.isZero then some (zero (x.negative && y.negative))
  else nearest? (x.toRat + y.toRat)

/-- The rounded product; none when it overflows. -/
def mul? (x y : Double) : Option Double :=
  if x.isZero || y.isZero then some (zero (x.negative != y.negative))
  else nearest? (x.toRat * y.toRat)

/-- The rounded quotient; none when it overflows or the divisor is zero. -/
def div? (x y : Double) : Option Double :=
  if y.isZero then none
  else if x.isZero then some (zero (x.negative != y.negative))
  else nearest? (x.toRat / y.toRat)

/-- The nearest integer, a half going away from zero; the sign is kept. -/
def round? (x : Double) : Option Double :=
  ofRatio? x.negative (roundHalfUp x.ratio.1 x.ratio.2) 1

/-- The least integer that is not below the number; the sign is kept. -/
def ceil? (x : Double) : Option Double :=
  let (num, den) := x.ratio
  ofRatio? x.negative (if x.negative then num / den else (num + den - 1) / den) 1

/-- The greatest integer that is not above the number; the sign is kept. -/
def floor? (x : Double) : Option Double :=
  let (num, den) := x.ratio
  ofRatio? x.negative (if x.negative then (num + den - 1) / den else num / den) 1

end Double

end JsonQuery
