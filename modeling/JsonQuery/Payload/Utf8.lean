/-!
# What is wrong with bytes that are no UTF-8

* `Utf8.Fault` — where the first character that is not well formed starts, and how many of its bytes are wrong.
* `Utf8.character` — the character at the start of some bytes, byte by byte.
* `Utf8.fault?` — the first fault; `Utf8.describe` — its wording.
-/

namespace JsonQuery.Utf8

/-- The number of bytes behind the first one of a character; none for a byte with which no character starts. -/
def behind? (first : UInt8) : Option Nat :=
  if first < 0x80 then some 0
  else if 0xC2 ≤ first ∧ first ≤ 0xDF then some 1
  else if 0xE0 ≤ first ∧ first ≤ 0xEF then some 2
  else if 0xF0 ≤ first ∧ first ≤ 0xF4 then some 3
  else none

/-- Whether a byte may stand at this place behind the first one.  The first bytes that are named here would let in
a longer form than is needed, a surrogate, or a number beyond the last character. -/
def mayStand (first : UInt8) (place : Nat) (b : UInt8) : Bool :=
  let (least, greatest) : UInt8 × UInt8 :=
    if place = 0 ∧ first = 0xE0 then (0xA0, 0xBF)
    else if place = 0 ∧ first = 0xED then (0x80, 0x9F)
    else if place = 0 ∧ first = 0xF0 then (0x90, 0xBF)
    else if place = 0 ∧ first = 0xF4 then (0x80, 0x8F)
    else (0x80, 0xBF)
  least ≤ b && b ≤ greatest

/-- Where a character that is not well formed starts, and how many bytes of it are wrong; none where the bytes end
inside the character. -/
structure Fault where
  place : Nat
  length : Option Nat
deriving DecidableEq, Repr

/-- How many bytes stand behind the first one of a character, or how many are wrong. -/
def character (first : UInt8) (bytes : List UInt8) : Except (Option Nat) Nat :=
  match behind? first with
  | none => .error (some 1)
  | some n =>
    match (bytes.take n).zipIdx.find? fun (b, i) => !mayStand first i b with
    | some (_, i) => .error (some (i + 1))
    | none => if bytes.length < n then .error none else .ok n

/-- What is wrong with the bytes from a place on. -/
def fault? (place : Nat) : List UInt8 → Option Fault
  | [] => none
  | first :: bytes =>
    match character first bytes with
    | .error length => some ⟨place, length⟩
    | .ok n => fault? (place + 1 + n) (bytes.drop n)
termination_by bytes => bytes.length
decreasing_by all_goals simp_wf; try omega

/-- The wording of a fault. -/
def Fault.message : Fault → String
  | ⟨place, some n⟩ => "invalid utf-8 sequence of " ++ toString n ++ " bytes from index " ++ toString place
  | ⟨place, none⟩ => "incomplete utf-8 byte sequence from index " ++ toString place

/-- What is said about bytes that are no UTF-8. -/
def describe (bytes : List UInt8) : String := ((fault? 0 bytes).map Fault.message).getD ""

end JsonQuery.Utf8
