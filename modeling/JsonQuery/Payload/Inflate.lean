import JsonQuery.Payload.Huffman

/-!
# Deflated data

* `Inflate.bitsOf` — the bits of bytes, the lowest bit of each byte first.
* `Inflate.block?` — one block: stored bytes, or symbols of a fixed or a transmitted code that stand
  for bytes and for repetitions of earlier output.
* `Inflate.inflate?` — all blocks up to the one marked as last; the result is the output and the
  bytes that follow.
-/

namespace JsonQuery.Inflate

open Huffman

/-! ## Bits -/

/-- The `n` lowest bits of a number, the lowest first. -/
def lowBits : Nat → Nat → List Bool
  | 0, _ => []
  | n + 1, x => (x % 2 == 1) :: lowBits n (x / 2)

/-- The bits of bytes, the lowest bit of each byte first. -/
def bitsOf (bytes : List UInt8) : List Bool := bytes.flatMap fun b => lowBits 8 b.toNat

/-- The number that `n` bits write, the lowest first, and the rest. -/
def number? : Nat → List Bool → Option (Nat × List Bool)
  | 0, bits => some (0, bits)
  | _ + 1, [] => none
  | n + 1, b :: bits => (number? n bits).map fun (x, rest) => ((if b then 1 else 0) + 2 * x, rest)

/-- The bits from the next byte on, where the bits of whole bytes are left. -/
def align (bits : List Bool) : List Bool := bits.drop (bits.length % 8)

/-- `n` whole bytes, and the rest. -/
def bytes? : Nat → List Bool → Option (List UInt8 × List Bool)
  | 0, bits => some ([], bits)
  | n + 1, bits => do
    let (b, bits) ← number? 8 bits
    let (bs, bits) ← bytes? n bits
    return (UInt8.ofNat b :: bs, bits)

/-! ## Lengths and distances -/

/-- The least length and the further bits of each length symbol from 257 on. -/
def lengthTable : List (Nat × Nat) :=
  [(3, 0), (4, 0), (5, 0), (6, 0), (7, 0), (8, 0), (9, 0), (10, 0), (11, 1), (13, 1), (15, 1),
   (17, 1), (19, 2), (23, 2), (27, 2), (31, 2), (35, 3), (43, 3), (51, 3), (59, 3), (67, 4),
   (83, 4), (99, 4), (115, 4), (131, 5), (163, 5), (195, 5), (227, 5), (258, 0)]

/-- The least distance and the further bits of each distance symbol. -/
def distanceTable : List (Nat × Nat) :=
  [(1, 0), (2, 0), (3, 0), (4, 0), (5, 1), (7, 1), (9, 2), (13, 2), (17, 3), (25, 3), (33, 4),
   (49, 4), (65, 5), (97, 5), (129, 6), (193, 6), (257, 7), (385, 7), (513, 8), (769, 8),
   (1025, 9), (1537, 9), (2049, 10), (3073, 10), (4097, 11), (6145, 11), (8193, 12), (12289, 12),
   (16385, 13), (24577, 13)]

/-- The value of a symbol of a table: its least value and what the further bits add. -/
def extended? (table : List (Nat × Nat)) (symbol : Nat) (bits : List Bool) :
    Option (Nat × List Bool) := do
  let (least, more) ← table[symbol]?
  let (x, bits) ← number? more bits
  return (least + x, bits)

/-- Repeats `n` bytes of output, each from `distance` bytes back. -/
def repeatBack? (distance : Nat) : Nat → Array UInt8 → Option (Array UInt8)
  | 0, out => some out
  | n + 1, out =>
    if distance ≤ out.size then
      match out[out.size - distance]? with
      | some b => repeatBack? distance n (out.push b)
      | none => none
    else none

/-! ## Blocks -/

/-- The literal and length code and the distance code of a block. -/
structure Codes where
  literals : Tree
  distances : Tree

/-- The symbols of a block up to its end; each takes one from `fuel`, which the number of bits
bounds. -/
def symbols? (codes : Codes) : Nat → Array UInt8 → List Bool →
    Option (Array UInt8 × List Bool)
  | 0, _, _ => none
  | fuel + 1, out, bits =>
    match codes.literals.decode? bits with
    | none => none
    | some (s, bits) =>
      if s < 256 then symbols? codes fuel (out.push (UInt8.ofNat s)) bits
      else if s = 256 then some (out, bits)
      else
        match do
          let (n, bits) ← extended? lengthTable (s - 257) bits
          let (d, bits) ← codes.distances.decode? bits
          let (distance, bits) ← extended? distanceTable d bits
          let out ← repeatBack? distance n out
          return (out, bits) with
        | none => none
        | some (out, bits) => symbols? codes fuel out bits

/-- The code lengths of the fixed literal code. -/
def fixedLengths : List Nat :=
  List.replicate 144 8 ++ List.replicate 112 9 ++ List.replicate 24 7 ++ List.replicate 8 8

/-- The fixed codes. -/
def fixedCodes? : Option Codes := do
  let literals ← Tree.ofLengths? false fixedLengths
  let distances ← Tree.ofLengths? false (List.replicate 32 5)
  return ⟨literals, distances⟩

/-- The order in which the lengths of the code for code lengths are sent. -/
def sendingOrder : List Nat := [16, 17, 18, 0, 8, 7, 9, 6, 10, 5, 11, 4, 12, 3, 13, 2, 14, 1, 15]

/-- `n` numbers of three bits. -/
def triples? : Nat → List Bool → Option (List Nat × List Bool)
  | 0, bits => some ([], bits)
  | n + 1, bits => do
    let (x, bits) ← number? 3 bits
    let (xs, bits) ← triples? n bits
    return (x :: xs, bits)

/-- Code lengths up to `wanted` of them, in reverse: a symbol below sixteen is a length, the others
repeat the length before or zero. -/
def lengths? (code : Tree) (wanted : Nat) : Nat → List Nat → List Bool →
    Option (List Nat × List Bool)
  | 0, _, _ => none
  | fuel + 1, seen, bits =>
    if seen.length = wanted then some (seen, bits)
    else if wanted < seen.length then none
    else
      match code.decode? bits with
      | none => none
      | some (s, bits) =>
        if s < 16 then lengths? code wanted fuel (s :: seen) bits
        else
          match do
            let (value, more, least) ←
              if s = 16 then seen.head?.map (·, 2, 3)
              else if s = 17 then some (0, 3, 3)
              else some (0, 7, 11)
            let (x, bits) ← number? more bits
            return (List.replicate (least + x) value ++ seen, bits) with
          | none => none
          | some (seen, bits) => lengths? code wanted fuel seen bits

/-- The codes that a block transmits. -/
def sentCodes? (bits : List Bool) : Option (Codes × List Bool) := do
  let (l, bits) ← number? 5 bits
  let (d, bits) ← number? 5 bits
  let (c, bits) ← number? 4 bits
  let literalCount := l + 257
  let distanceCount := d + 1
  if 286 < literalCount || 30 < distanceCount then none
  let (sent, bits) ← triples? (c + 4) bits
  let lengthOf (i : Nat) : Nat := ((sendingOrder.zip sent).lookup i).getD 0
  let code ← Tree.ofLengths? false ((List.range 19).map lengthOf)
  let wanted := literalCount + distanceCount
  let (seen, bits) ← lengths? code wanted (wanted + 1) [] bits
  let all := seen.reverse
  let literals ← Tree.ofLengths? true (all.take literalCount)
  let distances ← Tree.ofLengths? true (all.drop literalCount)
  return (⟨literals, distances⟩, bits)

/-- A stored block behind its header: the number of bytes, its complement, and the bytes. -/
def stored? (out : Array UInt8) (bits : List Bool) : Option (Array UInt8 × List Bool) := do
  let (n, bits) ← number? 16 (align bits)
  let (complement, bits) ← number? 16 bits
  if n + complement ≠ 0xFFFF then none
  let (bytes, bits) ← bytes? n bits
  return (out ++ bytes.toArray, bits)

/-- One block behind the bit that marks the last one. -/
def block? (out : Array UInt8) (bits : List Bool) : Option (Array UInt8 × List Bool) := do
  let (kind, bits) ← number? 2 bits
  match kind with
  | 0 => stored? out bits
  | 1 =>
    let codes ← fixedCodes?
    symbols? codes bits.length out bits
  | 2 =>
    let (codes, bits) ← sentCodes? bits
    symbols? codes bits.length out bits
  | _ => none

/-- Blocks up to the last one; each takes one from `fuel`. -/
def blocks? : Nat → Array UInt8 → List Bool → Option (Array UInt8 × List Bool)
  | 0, _, _ => none
  | fuel + 1, out, bits => do
    let (last, bits) ← number? 1 bits
    let (out, bits) ← block? out bits
    if last = 1 then return (out, bits) else blocks? fuel out bits

/-- The output of deflated data, and the bytes behind it. -/
def inflate? (bytes : List UInt8) : Option (List UInt8 × List UInt8) := do
  let bits := bitsOf bytes
  let (out, bits) ← blocks? (bits.length + 1) #[] bits
  let (rest, _) ← bytes? (bits.length / 8) (align bits)
  return (out.toList, rest)

end JsonQuery.Inflate
