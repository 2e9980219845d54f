import JsonQuery.Unicode.CharSet

/-!
# Bytes of characters

* `Unicode.ByteSpan` — a range of bytes.
* `Unicode.byteRows` — the encodings of a range of characters, as rows of byte ranges in increasing
  order; a row stands for the products of its ranges.
* `CharSet.byteRows` — the encodings of all characters of a set.
-/

namespace JsonQuery.Unicode

/-- A range of bytes, both ends included. -/
structure ByteSpan where
  first : Nat
  last : Nat
deriving DecidableEq, Repr, Inhabited

/-- The rows of bytes that write the numbers from `s` to `e`.  The first byte adds `mark` to the
highest digits; each of the `n` bytes behind it holds one digit to the base 64.  Where the highest
digits of the two ends differ, the parts at the two ends that are not full stand alone. -/
def digitRows (mark : Nat) : Nat → Nat → Nat → List (List ByteSpan)
  | 0, s, e => [[⟨mark + s, mark + e⟩]]
  | n + 1, s, e =>
    let unit := 64 ^ (n + 1)
    let a := s / unit
    let b := e / unit
    let behind (first last s e : Nat) : List (List ByteSpan) :=
      (digitRows 0x80 n s e).map (⟨mark + first, mark + last⟩ :: ·)
    if a = b then behind a a (s % unit) (e % unit)
    else
      let (low, a) :=
        if s % unit = 0 then ([], a) else (behind a a (s % unit) (unit - 1), a + 1)
      let (high, last) :=
        if e % unit = unit - 1 then ([], b + 1) else (behind b b 0 (e % unit), b)
      low ++ (if a < last then behind a (last - 1) 0 (unit - 1) else []) ++ high

/-- The ranges of characters whose encodings have one form: the mark of the first byte, the number
of bytes behind it, and the range. -/
def encodingForms : List (Nat × Nat × Range) := [
  (0, 0, ⟨0, 0x7F⟩),
  (0xC0, 1, ⟨0x80, 0x7FF⟩),
  (0xE0, 2, ⟨0x800, 0xD7FF⟩),
  (0xE0, 2, ⟨0xE000, 0xFFFF⟩),
  (0xF0, 3, ⟨0x10000, 0x10FFFF⟩)
]

/-- The encodings of the characters of a range. -/
def byteRows (r : Range) : List (List ByteSpan) :=
  encodingForms.flatMap fun (mark, n, form) =>
    let part := r.meet form
    if part.first ≤ part.last then digitRows mark n part.first part.last else []

/-- The encodings of the characters of a set. -/
def CharSet.byteRows (s : CharSet) : List (List ByteSpan) := s.ranges.flatMap Unicode.byteRows

end JsonQuery.Unicode
