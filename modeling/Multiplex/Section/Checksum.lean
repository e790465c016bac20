import Multiplex.Wire.Order

/-!
# The checksum of a section

CRC-32/MPEG-2: the polynomial 0x04C11DB7, all ones to begin with, most significant bit first, no
reflection and no final complement. `crc` takes a byte at a time with the help of a table;
`feedBit` is the shift register that defines it. A section whose checksum is right has the
checksum zero as a whole.
-/

namespace Multiplex.Section.Checksum

open Multiplex.Wire

/-- The generator polynomial without its leading term. -/
def polynomial : UInt32 := 0x04C11DB7

/-- The register after one more bit: it moves up by one, and the polynomial is added when the bit
that leaves it differs from the bit fed in. -/
def feedBit (register : UInt32) (bit : Bool) : UInt32 :=
  if (register.toNat / 0x80000000 = 1) != bit then (register <<< 1) ^^^ polynomial
  else register <<< 1

/-- The bits of a byte, most significant first. -/
def bitsOf (b : UInt8) : List Bool := (List.range 8).map fun i => b.toNat.testBit (7 - i)

/-- The register after the bits of a byte. -/
def feedByte (register : UInt32) (b : UInt8) : UInt32 := (bitsOf b).foldl feedBit register

/-- What the eight bits that leave the register together add to it. -/
def table : Array UInt32 :=
  ((List.range 256).map fun i =>
    (List.replicate 8 false).foldl feedBit (UInt32.ofNat i <<< 24)).toArray

/-- The register after a byte, by the table. -/
def step (register : UInt32) (b : UInt8) : UInt32 :=
  (register <<< 8) ^^^ table.getD ((register >>> 24) ^^^ b.toUInt32).toNat 0

/-- The register before the first bit. -/
def initial : UInt32 := 0xFFFFFFFF

/-- The checksum of `bytes`. -/
def crc (bytes : List UInt8) : UInt32 := bytes.foldl step initial

/-- Whether `raw` begins with a whole section with a right checksum. -/
def verify (raw : List UInt8) : Bool :=
  match raw with
  | _ :: high :: low :: _ =>
    let length := bigEndian [high, low] % 0x1000
    4 ≤ length && length + 3 ≤ raw.length && crc (raw.take (length + 3)) == 0
  | _ => false

/-- `raw` with its last four bytes replaced by the checksum of those before; shorter sequences
stay as they are. -/
def resealed (raw : List UInt8) : List UInt8 :=
  if raw.length < 4 then raw
  else
    let content := raw.take (raw.length - 4)
    content ++ big32 (crc content)

end Multiplex.Section.Checksum
