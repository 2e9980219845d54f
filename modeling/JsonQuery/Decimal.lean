import JsonQuery.Double
import JsonQuery.Text.Digits

/-!
# Decimals of 96 bits

* `Decimal` — a sign, a mantissa below 2^96 and a scale of at most 28, for the number
  `± mantissa / 10 ^ scale`.
* `Decimal.toRat` — the exact value.
* `Decimal.fit?` — a quotient rounded to a decimal: the largest scale at which the mantissa has
  room, a tie going to the even mantissa.
* `Decimal.add?`, `Decimal.divNat?` — the sum and the quotient so rounded.
* `Decimal.floor`, `Decimal.ceil` — the neighbouring integers.
* `Decimal.toDouble?` — the number as a double, by way of its integer part and its fraction.
-/

namespace JsonQuery

/-- The number `± mantissa / 10 ^ scale`. -/
structure Decimal where
  negative : Bool
  mantissa : Nat
  scale : Nat
  inRange : mantissa < Nat.pow 2 96 ∧ scale ≤ 28
deriving DecidableEq

namespace Decimal

/-- The decimal with these parts, if they are in range. -/
def ofParts? (negative : Bool) (mantissa scale : Nat) : Option Decimal :=
  if h : mantissa < Nat.pow 2 96 ∧ scale ≤ 28 then some ⟨negative, mantissa, scale, h⟩ else none

/-- Zero. -/
def zero : Decimal := ⟨false, 0, 0, by decide⟩

/-- The mantissa with its sign. -/
def signed (d : Decimal) : Int := if d.negative then -(d.mantissa : Int) else d.mantissa

/-- The exact value. -/
def toRat (d : Decimal) : Rat := mkRat d.signed (Nat.pow 10 d.scale)

/-- The decimal of an integer, if its magnitude is in range. -/
def ofInt? (i : Int) : Option Decimal := ofParts? (i < 0) i.natAbs 0

/-- The number with its sign dropped. -/
def abs (d : Decimal) : Decimal := { d with negative := false }

/-! ## Trailing zeros -/

/-- A mantissa and a scale without trailing zeros behind the point. -/
def strip : Nat → Nat → Nat × Nat
  | m, 0 => (m, 0)
  | m, s + 1 => if m % 10 = 0 then strip (m / 10) s else (m, s + 1)

theorem strip_le (m s : Nat) : (strip m s).1 ≤ m ∧ (strip m s).2 ≤ s := by
  induction s generalizing m with
  | zero => simp [strip]
  | succ s ih =>
    simp only [strip]
    split
    · have := ih (m / 10)
      omega
    · simp

/-- The same number without trailing zeros behind the point. -/
def normalize (d : Decimal) : Decimal :=
  ⟨d.negative, (strip d.mantissa d.scale).1, (strip d.mantissa d.scale).2, by
    have := strip_le d.mantissa d.scale
    have := d.inRange
    omega⟩

/-! ## Arithmetic -/

/-- The value `± num / den` with at most `s` places: the largest scale at which the rounded
mantissa has room, a tie going to the even mantissa; none when not even the integer part fits. -/
def fit? (negative : Bool) (num den : Nat) : Nat → Option Decimal
  | 0 => ofParts? negative (Double.roundHalfEven num den) 0
  | s + 1 =>
    match ofParts? negative (Double.roundHalfEven (num * Nat.pow 10 (s + 1)) den) (s + 1) with
    | some d => some d
    | none => fit? negative num den s

/-- The sum, rounded when it has no room for all its places; none when it overflows. -/
def add? (x y : Decimal) : Option Decimal :=
  let s := max x.scale y.scale
  let n := x.signed * Int.pow 10 (s - x.scale) + y.signed * Int.pow 10 (s - y.scale)
  fit? (n < 0) n.natAbs (Nat.pow 10 s) s

/-- The quotient by a count, rounded to as many places as there is room for. -/
def divNat? (x : Decimal) (n : Nat) : Option Decimal :=
  if n = 0 then none else fit? x.negative x.mantissa (Nat.pow 10 x.scale * n) 28

/-- The greatest integer that is not above the number. -/
def floor (d : Decimal) : Int := d.signed.fdiv (Int.pow 10 d.scale)

/-- The least integer that is not below the number. -/
def ceil (d : Decimal) : Int := -((-d.signed).fdiv (Int.pow 10 d.scale))

/-- The order of two decimals by value. -/
def cmp (x y : Decimal) : Ordering :=
  compare (x.signed * Int.pow 10 y.scale) (y.signed * Int.pow 10 x.scale)

/-! ## As a double -/

/-- The magnitude as a double.  The integer part and the fraction are turned into doubles apart,
the fraction by a division; their sum is then rounded to the scale.  The result need not be the
nearest double. -/
def magnitude? (d : Decimal) : Option Double := do
  let unit := Nat.pow 10 d.scale
  let whole ← Double.ofRatio? false (d.mantissa / unit) 1
  let part ← Double.ofRatio? false (d.mantissa % unit) 1
  let one ← Double.ofRatio? false unit 1
  let fraction ← part.div? one
  if d.scale = 0 ∨ fraction.isZero then return whole
  let sum ← whole.add? fraction
  let scaled ← sum.mul? one
  let rounded ← scaled.round?
  rounded.div? one

/-- The number as a double. -/
def toDouble? (d : Decimal) : Option Double :=
  d.magnitude?.map fun x => { x with negative := d.negative }

/-! ## Text -/

/-- The number with exactly as many places as its scale. -/
def write (d : Decimal) : List Char :=
  let digits := Text.writeNat d.mantissa
  let padded := List.replicate (d.scale + 1 - digits.length) '0' ++ digits
  let whole := padded.take (padded.length - d.scale)
  let places := padded.drop (padded.length - d.scale)
  (if d.negative then ['-'] else []) ++ whole ++ (if d.scale = 0 then [] else '.' :: places)

end Decimal

end JsonQuery
