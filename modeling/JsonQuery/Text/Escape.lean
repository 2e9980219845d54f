import JsonQuery.Text.Units

/-!
# Escapes in quoted text

* `Text.Escape.Fault` — what can be wrong with an escape.
* `Text.Escape.read` — the character that an escape stands for and the number of characters it
  takes behind its backslash.  A character beyond U+FFFF is written as a pair of surrogates.
-/

namespace JsonQuery.Text.Escape

/-- What can be wrong with an escape. -/
inductive Fault where
  | unknown
  | badUnit
  | missingLow
  | badLow
  | loneLow
deriving DecidableEq, Repr

/-- The character of a one-letter escape. -/
def short? (c : Char) : Option Char :=
  if c = '"' ∨ c = '\\' ∨ c = '/' then some c
  else if c = 'b' then some (Char.ofNat 0x08)
  else if c = 'f' then some (Char.ofNat 0x0C)
  else if c = 'n' then some '\n'
  else if c = 'r' then some '\r'
  else if c = 't' then some '\t'
  else none

/-- The 16-bit unit at the start of a text: four hexadecimal digits. -/
def unit? : List Char → Option Nat
  | a :: b :: c :: d :: _ => hexQuad? a b c d
  | _ => none

/-- The low surrogate that has to follow a high one: a second escaped unit. -/
def readLow (high : Nat) : List Char → Except Fault (Char × Nat)
  | '\\' :: 'u' :: rest =>
    match unit? rest with
    | none => .error .badUnit
    | some low =>
      if isLowSurrogate low then .ok (Char.ofNat (ofPair high low), 11) else .error .badLow
  | _ => .error .missingLow

/-- Reads the escape behind a backslash. -/
def read : List Char → Except Fault (Char × Nat)
  | [] => .error .unknown
  | c :: rest =>
    if c = 'u' then
      match unit? rest with
      | none => .error .badUnit
      | some u =>
        if isHighSurrogate u then readLow u (rest.drop 4)
        else if isLowSurrogate u then .error .loneLow
        else .ok (Char.ofNat u, 5)
    else
      match short? c with
      | some d => .ok (d, 1)
      | none => .error .unknown

end JsonQuery.Text.Escape
