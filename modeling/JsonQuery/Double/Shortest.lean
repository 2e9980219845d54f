import JsonQuery.Double

/-!
# The fewest digits that read back

* `Double.shortest` — for a magnitude above zero, the digits and the decimal exponent of the
  shortest decimal number that rounds to it; of two equally short ones the nearer, and of two
  equally near ones the even one.
* `Double.Layout`, `Double.write` — the text of a double: which exponents are written
  positionally is the layout's choice.
-/

namespace JsonQuery.Double

/-! ## The interval that rounds to a double -/

/-- Whether the double below is only half as far away as the one above. -/
def narrowBelow (x : Double) : Bool := x.mantissa == Nat.pow 2 52 && x.exponent != -1074

/-- The ends of the interval of magnitudes that round to `x`, and `x` itself, as numerators over
one denominator: low end, value, high end, denominator. -/
def interval (x : Double) : Nat × Nat × Nat × Nat :=
  let (num, den) := x.ratio
  let unit := if 0 ≤ x.exponent then Nat.pow 2 x.exponent.toNat else 1
  (4 * num - (if narrowBelow x then unit else 2 * unit), 4 * num, 4 * num + 2 * unit, 4 * den)

/-- Whether `num / den` rounds to `x`; the ends of the interval do when the mantissa is even. -/
def readsAs (x : Double) (num den : Nat) : Bool :=
  let (low, _, high, unit) := interval x
  if x.mantissa % 2 == 0 then low * den ≤ num * unit && num * unit ≤ high * den
  else low * den < num * unit && num * unit < high * den

/-! ## Decimal grids -/

/-- The number `digits · 10 ^ exponent` as a ratio. -/
def decimalRatio (digits : Nat) (exponent : Int) : Nat × Nat :=
  if 0 ≤ exponent then (digits * Nat.pow 10 exponent.toNat, 1)
  else (digits, Nat.pow 10 (-exponent).toNat)

/-- The greatest `k ≤ guess + 1` near `guess` with `10 ^ k ≤ num / den`. -/
def floorLog10 (num den : Nat) (guess : Int) : Int :=
  let fits (k : Int) : Bool := let (n, d) := decimalRatio 1 k; n * den ≤ num * d
  if fits (guess + 1) then guess + 1 else if fits guess then guess else guess - 1

/-- The power of ten at the leading digit of a magnitude above zero. -/
def leading (x : Double) : Int :=
  let (num, den) := x.ratio
  floorLog10 num den ((floorLog2 num den * 30103).fdiv 100000)

/-- The multiple of `10 ^ k` nearest to `x`, a tie going to the even one. -/
def nearestOnGrid (x : Double) (k : Int) : Nat :=
  let (num, den) := x.ratio
  let (p, q) := decimalRatio 1 k
  roundHalfEven (num * q) (den * p)

/-- The multiple of `10 ^ k` that is shown for `x`, if one of the two around it reads as `x`. -/
def onGrid? (x : Double) (k : Int) : Option Nat :=
  let (num, den) := x.ratio
  let (p, q) := decimalRatio 1 k
  let low := num * q / (den * p)
  let hit (d : Nat) : Bool := let (n, m) := decimalRatio d k; readsAs x n m
  if hit low && hit (low + 1) then some (nearestOnGrid x k)
  else if hit low then some low
  else if hit (low + 1) then some (low + 1)
  else none

/-- The coarsest grid with a hit among `10 ^ k` and `more` finer ones; the finest is taken as it
is, for seventeen digits always read back. -/
def search (x : Double) (k : Int) : Nat → Nat × Int
  | 0 => (nearestOnGrid x k, k)
  | more + 1 =>
    match onGrid? x k with
    | some d => (d, k)
    | none => search x (k - 1) more

/-- The shortest digits and their power of ten, for a magnitude above zero. -/
def shortest (x : Double) : Nat × Int := search x x.leading 16

/-! ## Text -/

/-- How doubles are laid out: the powers of ten of the leading digit that are written
positionally; all others are written with an exponent. -/
structure Layout where
  least : Int
  greatest : Int

/-- The digits without their trailing zeros. -/
def stripZeros (digits : List Char) : List Char := (digits.reverse.dropWhile (· == '0')).reverse

/-- The magnitude above zero with shortest digits `d` at power `e`. -/
def writeDigits (layout : Layout) (d : Nat) (e : Int) : List Char :=
  let all := Nat.toDigits 10 d
  let lead : Int := e + all.length - 1
  let digits := stripZeros all
  if layout.least ≤ lead ∧ lead ≤ layout.greatest then
    if lead < 0 then
      '0' :: '.' :: (List.replicate (-lead - 1).toNat '0' ++ digits)
    else
      let whole := lead.toNat + 1
      let padded := digits ++ List.replicate (whole - digits.length) '0'
      let fraction := padded.drop whole
      padded.take whole ++ '.' :: (if fraction.isEmpty then ['0'] else fraction)
  else
    let mantissa := match digits with
      | first :: second :: rest => first :: '.' :: second :: rest
      | few => few
    mantissa ++ 'e' :: (if lead < 0 then '-' else '+') :: Nat.toDigits 10 lead.natAbs

/-- The text of a double. -/
def write (layout : Layout) (x : Double) : List Char :=
  let sign := if x.negative then ['-'] else []
  if x.isZero then sign ++ ['0', '.', '0']
  else let (d, e) := x.shortest; sign ++ writeDigits layout d e

end JsonQuery.Double
