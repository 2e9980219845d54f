import JsonQuery.Number

/-!
# Arithmetic on JSON numbers

Each operation works on decimals where the numbers have them, and on doubles otherwise.  A result
of none stands for one that no finite number represents.

* `Number.abs`, `Number.ceil`, `Number.floor` — magnitude and neighbouring integers.
* `Number.sum`, `Number.avg` — the sum and the mean of a list.
-/

namespace JsonQuery.Number

/-- The magnitude. -/
def abs (n : Number) : Option Number :=
  match n.toDecimal? with
  | some d => ofDecimal d.abs
  | none => n.toDouble?.map fun x => double x.abs

/-- The least integer that is not below the number. -/
def ceil (n : Number) : Option Number :=
  match n.toDecimal? with
  | some d => ofInt d.ceil
  | none => (n.toDouble?.bind Double.ceil?).map double

/-- The greatest integer that is not above the number. -/
def floor (n : Number) : Option Number :=
  match n.toDecimal? with
  | some d => ofInt d.floor
  | none => (n.toDouble?.bind Double.floor?).map double

/-- The decimal sum, from the left; none when a number has no decimal view or the sum overflows
(`decimal_sum`). -/
def decimalSum? (ns : List Number) : Option Decimal :=
  ns.foldlM (fun total n => n.toDecimal?.bind total.add?) Decimal.zero

/-- The double sum, from the left; none when it overflows (`double_sum`). -/
def doubleSum? (ns : List Number) : Option Double :=
  ns.foldlM (fun total n => n.toDouble?.bind total.add?) (Double.zero false)

/-- The sum of a list. -/
def sum (ns : List Number) : Option Number :=
  match decimalSum? ns with
  | some d => ofDecimal d
  | none => (doubleSum? ns).map double

/-- The mean of a list that is not empty. -/
def avg (ns : List Number) : Option Number :=
  match (decimalSum? ns).bind (Decimal.divNat? · ns.length) with
  | some d => ofDecimal d
  | none => do
    let total ← doubleSum? ns
    let count ← Double.ofInt? ns.length
    (total.div? count).map double

end JsonQuery.Number
