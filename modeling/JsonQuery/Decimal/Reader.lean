import JsonQuery.Decimal

/-!
# Reading decimals

* `Decimal.read?` — an optional sign, digits with at most one point, and underscores behind the
  first digit.  Digits are taken while the mantissa has room and fewer than 28 places are read; the
  next digit rounds half up and what follows it is only checked.
* `Decimal.shift?` — a decimal divided by a power of ten, rounded half up to 28 places.
* `Decimal.readScientific?` — such a text with an exponent of at most 28 behind `e` or `E`.
-/

namespace JsonQuery.Decimal

/-- Adds a rounding digit to a full mantissa; a mantissa that then overflows loses a place. -/
def roundLast (m s digit : Nat) : Option (Nat × Nat) :=
  if digit < 5 then some (m, s)
  else if m + 1 < Nat.pow 2 96 then some (m + 1, s)
  else if s = 0 then none
  else some ((m + 5) / 10, s - 1)

/-- Reads digits into a mantissa and a scale. -/
def readDigits (m s : Nat) (point any : Bool) : List Char → Option (Nat × Nat)
  | [] => if any then some (m, s) else none
  | c :: cs =>
    if point ∧ s = 28 then
      if (Text.isDigit c || c == '_') && cs.all (fun d => Text.isDigit d || d == '_') then
        roundLast m s (if c = '_' then 0 else Text.digitValue c)
      else none
    else if Text.isDigit c then
      let next := 10 * m + Text.digitValue c
      if next < Nat.pow 2 96 then readDigits next (if point then s + 1 else s) point true cs
      else if point && cs.all (fun d => Text.isDigit d || d == '_') then
        roundLast m s (Text.digitValue c)
      else none
    else if c = '.' ∧ point = false then readDigits m s true any cs
    else if c = '_' ∧ any then readDigits m s point any cs
    else none

/-- Reads a decimal without exponent. -/
def read? (cs : List Char) : Option Decimal :=
  let (negative, body) := match cs with
    | '-' :: r => (true, r)
    | '+' :: r => (false, r)
    | r => (false, r)
  match readDigits 0 0 false false body with
  | some (m, s) => ofParts? negative m s
  | none => none

/-- Reads an unsigned number below 2^32 with an optional plus sign. -/
def readCount? (cs : List Char) : Option Nat :=
  let digits := match cs with
    | '+' :: r => r
    | r => r
  if digits.isEmpty || !digits.all Text.isDigit then none
  else if Text.ofDigits digits < Nat.pow 2 32 then some (Text.ofDigits digits) else none

/-- Whether a character marks an exponent. -/
def isMark (c : Char) : Bool := c == 'e' || c == 'E'

/-- The decimal divided by `10 ^ e` for an exponent of at most 28, rounded half up (away from zero)
to 28 places. -/
def shift? (d : Decimal) (e : Nat) : Option Decimal :=
  if 28 < e then none
  else if d.scale + e ≤ 28 then ofParts? d.negative d.mantissa (d.scale + e)
  else ofParts? d.negative (Double.roundHalfUp d.mantissa (Nat.pow 10 (d.scale + e - 28))) 28

/-- Reads a decimal with an exponent. -/
def readScientific? (cs : List Char) : Option Decimal := do
  let base := cs.takeWhile (!isMark ·)
  let power ← (cs.dropWhile (!isMark ·)).tail?
  let d ← read? base
  match power with
  | '-' :: digits =>
    let e ← readCount? digits
    d.shift? e
  | digits =>
    let e ← readCount? digits
    if 28 < e then none
    else if e ≤ d.scale then ofParts? d.negative d.mantissa (d.scale - e)
    else ofParts? d.negative (d.mantissa * Nat.pow 10 (e - d.scale)) 0

end JsonQuery.Decimal
