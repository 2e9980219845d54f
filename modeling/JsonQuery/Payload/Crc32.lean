/-!
# The checksum CRC-32

* `Crc32.ofBytes` — the remainder of the bytes by the reflected polynomial 0xEDB88320, with all
  bits turned before and after.
-/

namespace JsonQuery.Crc32

/-- One bit of the division. -/
def bitStep (s : UInt32) : UInt32 := if s &&& 1 = 1 then (s >>> 1) ^^^ 0xEDB88320 else s >>> 1

/-- One byte of the division. -/
def byteStep (s : UInt32) (b : UInt8) : UInt32 := Nat.repeat bitStep 8 (s ^^^ b.toUInt32)

/-- The checksum of bytes. -/
def ofBytes (bytes : List UInt8) : UInt32 := bytes.foldl byteStep 0xFFFFFFFF ^^^ 0xFFFFFFFF

end JsonQuery.Crc32
