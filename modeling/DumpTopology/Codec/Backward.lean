import DumpTopology.Codec.Bits

/-!
# Bit streams read backwards

Entropy-coded Zstandard streams are written forwards and read backwards. A stream is the
little-endian number of its bytes; its highest set bit marks where it starts, so its last
byte may not be zero, and its bits are read from there towards bit zero, each read giving
the next bits as a number whose highest bit was read first.

Asking for more bits than are left gives the ones left followed by zeros, and marks the
stream overrun. A stream is finished when every bit was read and none was asked for
beyond them.
-/
namespace DumpTopology.Codec

/-- Bits `lo` to `lo + k` of the little-endian number of the bytes from `start` to
`stop`. -/
def bitsAt (bytes : ByteArray) (start stop lo k : Nat) : Nat :=
  let first := lo / 8
  let last := (lo + k + 7) / 8
  let word := (List.range (last - first)).foldr
    (fun j acc => acc * 256 + (if start + first + j < stop then (bytes[start + first + j]?.getD 0).toNat else 0)) 0
  (word / Nat.pow 2 (lo % 8)) % Nat.pow 2 k

/-- A bit stream read backwards: the bytes from `start` to `stop`, the bits not yet read
(the lowest ones), and whether more were asked for than it had. -/
structure BackBits where
  bytes : ByteArray
  start : Nat
  stop : Nat
  left : Nat
  overrun : Bool := false

namespace BackBits

/-- Opens the stream of the bytes from `start` to `stop`, refused when it is empty or its
last byte holds no start mark. -/
def open? (bytes : ByteArray) (start stop : Nat) : Option BackBits :=
  if stop ≤ start || bytes.size < stop then none
  else
    let last := (bytes[stop - 1]?.getD 0).toNat
    if last == 0 then none
    else some { bytes, start, stop, left := 8 * (stop - start - 1) + Nat.log2 last }

/-- The next `k` bits, without reading them. -/
def peek (r : BackBits) (k : Nat) : Nat :=
  if k ≤ r.left then bitsAt r.bytes r.start r.stop (r.left - k) k
  else bitsAt r.bytes r.start r.stop 0 r.left * Nat.pow 2 (k - r.left)

/-- Reads the next `k` bits. -/
def read (r : BackBits) (k : Nat) : Nat × BackBits :=
  if k ≤ r.left then (r.peek k, { r with left := r.left - k })
  else (r.peek k, { r with left := 0, overrun := true })

/-- Whether every bit was read, and no more. -/
def finished (r : BackBits) : Bool := r.left == 0 && !r.overrun

end BackBits

end DumpTopology.Codec
