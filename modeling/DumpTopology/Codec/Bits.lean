/-!
# Reading bits

Compressed streams are read as bits, least significant bit of each byte first. A reader
is the bytes and the position of the next bit; reading past the end fails.
-/
namespace DumpTopology.Codec

/-- A position in a byte array, counted in bits. -/
structure BitReader where
  bytes : ByteArray
  pos : Nat := 0

namespace BitReader

/-- The bits left to read. -/
def remaining (r : BitReader) : Nat := 8 * r.bytes.size - r.pos

/-- One bit. -/
def bit (r : BitReader) : Option (Nat × BitReader) :=
  match r.bytes[r.pos / 8]? with
  | some b => some (((b >>> (r.pos % 8).toUInt8) &&& 1).toNat, { r with pos := r.pos + 1 })
  | none => none

/-- `n` bits as a number, the first read being the lowest. -/
def bitsLow : Nat → BitReader → Nat → Nat → Option (Nat × BitReader)
  | 0, r, acc, _ => some (acc, r)
  | n + 1, r, acc, shift => do
    let (b, r) ← r.bit
    bitsLow n r (acc + b * Nat.pow 2 shift) (shift + 1)

/-- `n` bits as a number, the first read being the lowest. -/
def bits (r : BitReader) (n : Nat) : Option (Nat × BitReader) := bitsLow n r 0 0

/-- The position of the next whole byte. -/
def bytePos (r : BitReader) : Nat := (r.pos + 7) / 8

/-- Skips to the next byte boundary. -/
def align (r : BitReader) : BitReader := { r with pos := 8 * r.bytePos }

end BitReader

/-- The little-endian number of `n` bytes at `pos`. -/
def readLE (bytes : ByteArray) (pos : Nat) : Nat → Option Nat
  | 0 => some 0
  | n + 1 => do
    let b ← bytes[pos]?
    let rest ← readLE bytes (pos + 1) n
    return b.toNat + 256 * rest

/-- The bytes from `start` to `stop`, if they are there. -/
def slice (bytes : ByteArray) (start stop : Nat) : Option ByteArray :=
  if start ≤ stop ∧ stop ≤ bytes.size then some (bytes.extract start stop) else none

end DumpTopology.Codec
