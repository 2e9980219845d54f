import JsonQuery.Decimal.OfDouble

/-!
# JSON numbers

* `Number` — an integer from -2^63 up to 2^64 - 1, or a finite double.
* `Number.toRat` — the exact value.
* `Number.ofInt` — an integer where it is in range, else the nearest double.
* `Number.toDecimal?`, `Number.toDouble?` — the decimal and the double view.
* `Number.compare` — the order by the decimal views where both numbers have one, else by the
  double views; `Number.equal` — equality in that order.
-/

namespace JsonQuery

/-- The integers that a JSON number holds exactly. -/
def Number.InRange (i : Int) : Prop := -Int.pow 2 63 ≤ i ∧ i < Int.pow 2 64

instance (i : Int) : Decidable (Number.InRange i) := by unfold Number.InRange; infer_instance

/-- A JSON number. -/
inductive Number where
  | integer (value : Int) (inRange : Number.InRange value)
  | double (value : Double)
deriving DecidableEq

namespace Number

/-- The exact value. -/
def toRat : Number → Rat
  | integer i _ => i
  | double x => x.toRat

/-- The integer as a number, if it is in range. -/
def ofInt? (i : Int) : Option Number :=
  if h : InRange i then some (integer i h) else none

/-- The integer as a number where it is in range, else the nearest double. -/
def ofInt (i : Int) : Option Number :=
  match ofInt? i with
  | some n => some n
  | none => (Double.ofInt? i).map double

/-- A count as a number. -/
def ofNat (n : Nat) : Option Number := ofInt n

/-- The decimal view; doubles of 2^96 and more have none (`to_decimal`). -/
def toDecimal? : Number → Option Decimal
  | integer i _ => Decimal.ofInt? i
  | double x => Decimal.ofDouble? x

/-- The double view. -/
def toDouble? : Number → Option Double
  | integer i _ => Double.ofInt? i
  | double x => some x

/-- A decimal as a number: an integer where it is one in range, else a double (`decimal_to_value`).
-/
def ofDecimal (d : Decimal) : Option Number :=
  let d := d.normalize
  match if d.scale = 0 then ofInt? d.signed else none with
  | some n => some n
  | none => d.toDouble?.map double

/-! ## Order -/

/-- The order of two rationals. -/
def compareRat (p q : Rat) : Ordering := if p < q then .lt else if q < p then .gt else .eq

/-- The order of two numbers: by the decimal views where both have one, else by the doubles. -/
def compare (a b : Number) : Option Ordering :=
  match a.toDecimal?, b.toDecimal? with
  | some x, some y => some (x.cmp y)
  | _, _ =>
    match a.toDouble?, b.toDouble? with
    | some x, some y => some (compareRat x.toRat y.toRat)
    | _, _ => none

/-- Equality in the order of numbers, so that `1` equals `1.0` (`equals`). -/
def equal (a b : Number) : Bool := compare a b == some .eq

/-- Equality of form as well: an integer never equals a double, but the two zeros are one. -/
def same : Number → Number → Bool
  | integer i _, integer j _ => i == j
  | double x, double y => x == y || (x.isZero && y.isZero)
  | _, _ => false

end Number

end JsonQuery
