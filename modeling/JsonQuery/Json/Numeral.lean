import JsonQuery.Number
import JsonQuery.Text.Digits

/-!
# The numbers of JSON numerals

* `Json.integral?` — the number of an integer numeral that 64 bits hold.
* `Json.takeDigits` — the digits that 64 bits hold, and those behind them.
* `Json.shift?` — a double times a power of ten, each multiplication and division rounded.
* `Json.floating?` — the double of any numeral: its first digits, as many as 64 bits hold, rounded to a
  double and then shifted.  It is close to what the numeral writes, but not always the double nearest to that.
* `Json.ofParts?` — the number of a numeral in parts; none when it is too large.
-/

namespace JsonQuery.Json

/-- The number of an integer numeral that 64 bits hold.  Minus zero and integers out of range are doubles. -/
def integral? (negative : Bool) (n : Nat) : Option Number :=
  if negative && n == 0 then some (.double (Double.zero true))
  else
    match Number.ofInt? (if negative then -(n : Int) else n) with
    | some i => some i
    | none => (Double.ofRatio? negative n 1).map .double

/-! ## Doubles -/

/-- The number that `s` and further digits write, as long as 64 bits hold it, and the digits that are left. -/
def takeDigits (s : Nat) : List Char → Nat × List Char
  | [] => (s, [])
  | c :: cs =>
    let n := 10 * s + Text.digitValue c
    if n < Nat.pow 2 64 then takeDigits n cs else (s, c :: cs)

/-- The largest exponent of a power of ten that is a double. -/
def maxPower : Nat := 308

/-- A power of ten as a double. -/
def powerOfTen? (k : Nat) : Option Double := Double.ofRatio? false (Nat.pow 10 k) 1

/-- `x * 10 ^ k`, rounded; none when it is too large. -/
def raise? (x : Double) (k : Nat) : Option Double :=
  if k ≤ maxPower then do x.mul? (← powerOfTen? k)
  else if x.isZero then some x
  else none

/-- `x / 10 ^ k`, by at most the largest power of ten at a time, and rounded each time. -/
def lower? (x : Double) (k : Nat) : Option Double :=
  if k ≤ maxPower then do x.div? (← powerOfTen? k)
  else if x.isZero then some x
  else do lower? (← x.div? (← powerOfTen? maxPower)) (k - maxPower)
termination_by k
decreasing_by simp only [maxPower] at *; omega

/-- `x * 10 ^ e`, rounded as many times as it takes. -/
def shift? (x : Double) (e : Int) : Option Double :=
  if 0 ≤ e then raise? x e.toNat else lower? x (-e).toNat

/-- The double of a numeral.  Digits in front of the point for which 64 bits have no room count as zeros; those
behind it do not count. -/
def floating? (negative : Bool) (whole fraction : List Char) (exponent : Int) : Option Double := do
  let (s, zeros) := takeDigits 0 whole
  let (s, ignored) := takeDigits s fraction
  let places : Int := fraction.length - ignored.length
  let x ← shift? (← Double.ofRatio? false s 1) (exponent + zeros.length - places)
  return if negative then x.neg else x

/-! ## Numbers -/

/-- The number of a numeral in parts.  Only an integer numeral can be an integer, if 64 bits hold its digits. -/
def ofParts? (negative : Bool) (whole fraction : List Char) (exponent : Int) (integer : Bool) : Option Number :=
  if integer = true ∧ Text.ofDigits whole < Nat.pow 2 64 then integral? negative (Text.ofDigits whole)
  else (floating? negative whole fraction exponent).map .double

end JsonQuery.Json
