import DumpTopology.Codec.Bits

/-!
# XXH64

The 64-bit xxHash of a byte string with seed 0, in wrapping 64-bit arithmetic: four
accumulators take 32-byte stripes, then the rest is mixed in by 8, 4 and 1 bytes, and
the result is scrambled once more.
-/
namespace DumpTopology.Codec

/-- The first prime of the hash. -/
def xxPrime1 : UInt64 := 11400714785074694791
/-- The second prime of the hash. -/
def xxPrime2 : UInt64 := 14029467366897019727
/-- The third prime of the hash. -/
def xxPrime3 : UInt64 := 1609587929392839161
/-- The fourth prime of the hash. -/
def xxPrime4 : UInt64 := 9650029242287828579
/-- The fifth prime of the hash. -/
def xxPrime5 : UInt64 := 2870177450012600261

/-- Rotates left by `r` bits. -/
def rotl64 (x : UInt64) (r : UInt64) : UInt64 := (x <<< r) ||| (x >>> (64 - r))

/-- Mixes one 8-byte lane into an accumulator. -/
def xxRound (acc lane : UInt64) : UInt64 := rotl64 (acc + lane * xxPrime2) 31 * xxPrime1

/-- Folds an accumulator into the hash. -/
def xxMerge (h v : UInt64) : UInt64 := (h ^^^ xxRound 0 v) * xxPrime1 + xxPrime4

/-- The little-endian word of `n` bytes at `pos`, zero past the end. -/
def wordAt (bytes : ByteArray) (pos n : Nat) : UInt64 := ((readLE bytes pos n).getD 0).toUInt64

/-- Runs the four accumulators over the stripes from `pos`. -/
def xxStripes (bytes : ByteArray) : Nat → Nat → UInt64 × UInt64 × UInt64 × UInt64 →
    UInt64 × UInt64 × UInt64 × UInt64
  | 0, _, v => v
  | n + 1, pos, (v1, v2, v3, v4) =>
    xxStripes bytes n (pos + 32)
      (xxRound v1 (wordAt bytes pos 8), xxRound v2 (wordAt bytes (pos + 8) 8),
        xxRound v3 (wordAt bytes (pos + 16) 8), xxRound v4 (wordAt bytes (pos + 24) 8))

/-- Mixes in the tail from `pos`: lanes of 8 bytes, then of 4, then single bytes. -/
def xxTail (bytes : ByteArray) : Nat → Nat → UInt64 → UInt64
  | 0, _, h => h
  | fuel + 1, pos, h =>
    let left := bytes.size - pos
    if left ≥ 8 then
      xxTail bytes fuel (pos + 8) (rotl64 (h ^^^ xxRound 0 (wordAt bytes pos 8)) 27 * xxPrime1 + xxPrime4)
    else if left ≥ 4 then
      xxTail bytes fuel (pos + 4) (rotl64 (h ^^^ wordAt bytes pos 4 * xxPrime1) 23 * xxPrime2 + xxPrime3)
    else if left ≥ 1 then
      xxTail bytes fuel (pos + 1) (rotl64 (h ^^^ wordAt bytes pos 1 * xxPrime5) 11 * xxPrime1)
    else h

/-- The XXH64 hash of bytes with seed 0. -/
def xxh64 (bytes : ByteArray) : UInt64 :=
  let n := bytes.size
  let stripes := n / 32
  let h :=
    if n ≥ 32 then
      let (v1, v2, v3, v4) := xxStripes bytes stripes 0 (xxPrime1 + xxPrime2, xxPrime2, 0, 0 - xxPrime1)
      let h := rotl64 v1 1 + rotl64 v2 7 + rotl64 v3 12 + rotl64 v4 18
      xxMerge (xxMerge (xxMerge (xxMerge h v1) v2) v3) v4
    else xxPrime5
  let h := xxTail bytes (n + 1) (32 * stripes) (h + n.toUInt64)
  let h := (h ^^^ (h >>> 33)) * xxPrime2
  let h := (h ^^^ (h >>> 29)) * xxPrime3
  h ^^^ (h >>> 32)

end DumpTopology.Codec
