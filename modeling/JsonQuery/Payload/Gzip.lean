import JsonQuery.Payload.Crc32
import JsonQuery.Payload.Inflate

/-!
# Gzip archives

* `Gzip.header?` — reads the header of a member: its optional fields are skipped, its checksum is
  verified if there is one, and reserved flags are refused.
* `Gzip.decode?` — the content of the first member, if checksum and length agree; what follows the
  member is ignored.
-/

namespace JsonQuery.Gzip

/-- The number that bytes write, the lowest byte first. -/
def littleEndian : List UInt8 → Nat
  | [] => 0
  | b :: rest => b.toNat + 256 * littleEndian rest

/-- The first `n` bytes and the rest, if there are so many. -/
def split? (n : Nat) (bytes : List UInt8) : Option (List UInt8 × List UInt8) :=
  if n ≤ bytes.length then some (bytes.take n, bytes.drop n) else none

/-- The most bytes that a name or a comment may have. -/
def maxField : Nat := 65535

/-- The bytes behind the first zero byte, in front of which at most `room` others stand. -/
def behindZero? (room : Nat) : List UInt8 → Option (List UInt8)
  | [] => none
  | b :: rest =>
    if b = 0 then some rest
    else
      match room with
      | 0 => none
      | room + 1 => behindZero? room rest

/-- The bytes behind a field that is there only if a flag is set. -/
def skipIf (flag : Bool) (skip : List UInt8 → Option (List UInt8)) (bytes : List UInt8) :
    Option (List UInt8) :=
  if flag then skip bytes else some bytes

/-- The bytes behind an extra field, which starts with its length. -/
def skipExtra (bytes : List UInt8) : Option (List UInt8) := do
  let (size, bytes) ← split? 2 bytes
  let (_, bytes) ← split? (littleEndian size) bytes
  return bytes

/-- The bytes behind the header checksum, if it is that of the header before it. -/
def checkHeader (archive bytes : List UInt8) : Option (List UInt8) := do
  let (sum, rest) ← split? 2 bytes
  let header := archive.take (archive.length - bytes.length)
  if littleEndian sum = (Crc32.ofBytes header).toNat % 65536 then some rest else none

/-- The bytes behind the header of a member. -/
def header? (archive : List UInt8) : Option (List UInt8) :=
  match archive with
  | 0x1F :: 0x8B :: 8 :: flags :: rest => do
    let flag (i : Nat) : Bool := flags.toNat.testBit i
    if flag 5 || flag 6 || flag 7 then none
    let (_, rest) ← split? 6 rest
    let rest ← skipIf (flag 2) skipExtra rest
    let rest ← skipIf (flag 3) (behindZero? maxField) rest
    let rest ← skipIf (flag 4) (behindZero? maxField) rest
    skipIf (flag 1) (checkHeader archive) rest
  | _ => none

/-- The content of the first member of an archive. -/
def decode? (archive : List UInt8) : Option (List UInt8) := do
  let body ← header? archive
  let (content, rest) ← Inflate.inflate? body
  let (sum, rest) ← split? 4 rest
  let (size, _) ← split? 4 rest
  if littleEndian sum = (Crc32.ofBytes content).toNat &&
      littleEndian size == content.length % Nat.pow 2 32 then some content else none

end JsonQuery.Gzip
