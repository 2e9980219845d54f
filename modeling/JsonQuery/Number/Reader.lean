import JsonQuery.Number
import JsonQuery.Decimal.Reader
import JsonQuery.Text.Blank

/-!
# Reading numeric text

* `Number.canonicalSign?` — brings the accounting forms of a number to one sign in front: a
  negative amount in parentheses, a sign behind the digits, and commas between them.
* `Double.read?` — a decimal or scientific numeral as the nearest double.
* `Number.read?` — numeric text as a number: as a decimal, else in scientific notation, else as a
  double.
-/

namespace JsonQuery

/-- The nearest double to a numeral: an optional sign, digits with at most one point and at least
one digit, and an optional exponent; none also when the magnitude is too large. -/
def Double.read? (cs : List Char) : Option Double := do
  let (negative, body) := match cs with
    | '-' :: r => (true, r)
    | '+' :: r => (false, r)
    | r => (false, r)
  let (whole, rest) := Text.spanDigits body
  let (fraction, rest) := match rest with
    | '.' :: r => Text.spanDigits r
    | r => ([], r)
  if whole.isEmpty && fraction.isEmpty then none
  let (exponent, rest) ← Text.readExponent? rest
  if rest.isEmpty then
    let s : Text.Scientific := ⟨whole, fraction, exponent⟩
    Double.ofDecimal? negative s.digits s.lastPower
  else none

namespace Number

/-- The text without its last character, if that is `c`. -/
def stripLast? (c : Char) (cs : List Char) : Option (List Char) :=
  if cs.getLast? = some c then some cs.dropLast else none

/-- What stands between parentheses that enclose the whole text. -/
def parenthesized? (cs : List Char) : Option (List Char) :=
  match cs with
  | '(' :: r => stripLast? ')' r
  | _ => none

/-- The body of a number and the sign that an accounting form gives it. -/
def accountingForm (cs : List Char) : List Char × Option Char :=
  match parenthesized? cs with
  | some inner => (Text.trim inner, some '-')
  | none =>
    match stripLast? '-' cs with
    | some body => (Text.trimEnd body, some '-')
    | none =>
      match stripLast? '+' cs with
      | some body => (Text.trimEnd body, some '+')
      | none => (cs, none)

/-- Whether a text starts with a sign. -/
def startsWithSign : List Char → Bool
  | c :: _ => c == '+' || c == '-'
  | [] => false

/-- The text of a number with at most one sign, in front, and without commas; none when it carries
two signs, no digits, or ends in an exponent mark (`canonical_sign`). -/
def canonicalSign? (cs : List Char) : Option (List Char) :=
  let (body, sign) := accountingForm cs
  if sign.isSome && startsWithSign body then none
  else
    let digits := body.filter (· != ',')
    match digits.getLast? with
    | none => none
    | some last =>
      if Decimal.isMark last then none
      else some (if sign = some '-' then '-' :: digits else digits)

/-- Numeric text as a number (`parse`). -/
def read? (cs : List Char) : Option Number := do
  let cs ← canonicalSign? (Text.trim cs)
  match Decimal.read? cs with
  | some d => ofDecimal d
  | none =>
    match Decimal.readScientific? cs with
    | some d => ofDecimal d
    | none => (Double.read? cs).map double

end Number

end JsonQuery
