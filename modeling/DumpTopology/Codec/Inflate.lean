import DumpTopology.Codec.Bits

/-!
# Inflating deflate streams

A deflate stream is a run of blocks, the last one flagged: stored blocks copy bytes,
and Huffman blocks, with the fixed codes or with codes sent ahead of the block, hold
literals and back-references into the output produced so far.

Codes are canonical: the lengths alone fix them. A table of code lengths is refused
when its codes are not exactly complete, unless it uses at most one symbol. A stream is
refused when it ends early, names a symbol that does not exist, refers back before the
start of its output, or holds a stored block whose length and its complement disagree.
-/
namespace DumpTopology.Codec

/-- Why inflating stops: the input ends inside the stream, or the stream is malformed. -/
inductive InflateFault
  | truncated
  | corrupt
  deriving BEq, Repr, Inhabited

/-- Reading that stops at a fault. -/
abbrev Inflating := Except InflateFault

/-- A read of input that ends the stream early when it fails. -/
def need {α : Type} : Option α → Inflating α
  | some a => .ok a
  | none => .error .truncated

/-- Refuses a malformed stream unless the condition holds. -/
def ensure (ok : Bool) : Inflating Unit := if ok then .ok () else .error .corrupt

/-- A canonical code: how many codes each length has, and the symbols in code order. -/
structure Huffman where
  counts : Array Nat
  symbols : Array Nat
  deriving Inhabited

namespace Huffman

/-- The code of the given lengths per symbol (zero for an unused symbol). -/
def ofLengths (lengths : Array Nat) : Huffman :=
  let counts := lengths.foldl (fun c l => c.modify l (· + 1)) (Array.replicate 16 0)
  let counts := counts.set! 0 0
  let symbols := (List.range 16).foldl (fun acc len =>
    if len == 0 then acc
    else acc ++ ((List.range lengths.size).filter fun s => lengths[s]? == some len).toArray) #[]
  ⟨counts, symbols⟩

/-- Whether a table of lengths makes a usable code: complete, or using at most one
symbol. -/
def usable (lengths : Array Nat) : Bool :=
  let used := lengths.foldl (fun n l => if l == 0 then n else n + 1) 0
  let total := lengths.foldl (fun t l => if l == 0 then t else t + Nat.pow 2 (16 - l)) 0
  total == Nat.pow 2 16 || used ≤ 1

/-- Decodes one symbol, reading its code bit by bit; `len` is the length tried next. -/
def decodeFrom (h : Huffman) : Nat → BitReader → Nat → Nat → Nat → Inflating (Nat × BitReader)
  | 0, _, _, _, _ => .error .corrupt
  | fuel + 1, r, len, code, first =>
    if len > 15 then .error .corrupt
    else do
      let (b, r) ← need r.bit
      let code := code + b
      let count := h.counts[len]?.getD 0
      if code < first + count then
        let index := (List.range len).foldl (fun i l => i + h.counts[l]?.getD 0) 0
        match h.symbols[index + (code - first)]? with
        | some s => return (s, r)
        | none => .error .corrupt
      else decodeFrom h fuel r (len + 1) (code * 2) ((first + count) * 2)

/-- Decodes one symbol. -/
def decode (h : Huffman) (r : BitReader) : Inflating (Nat × BitReader) := h.decodeFrom 16 r 1 0 0

end Huffman

/-- The lengths of the fixed literal and length code. -/
def fixedLitLengths : Array Nat :=
  (List.range 288).toArray.map fun s => if s < 144 then 8 else if s < 256 then 9 else if s < 280 then 7 else 8

/-- The fixed literal and length code. -/
def fixedLit : Huffman := Huffman.ofLengths fixedLitLengths

/-- The fixed distance code. -/
def fixedDist : Huffman := Huffman.ofLengths (Array.replicate 30 5)

/-- Base lengths of the length symbols 257 to 285. -/
def lengthBase : Array Nat :=
  #[3, 4, 5, 6, 7, 8, 9, 10, 11, 13, 15, 17, 19, 23, 27, 31, 35, 43, 51, 59, 67, 83, 99, 115,
    131, 163, 195, 227, 258]

/-- Extra bits of the length symbols 257 to 285. -/
def lengthExtra : Array Nat :=
  #[0, 0, 0, 0, 0, 0, 0, 0, 1, 1, 1, 1, 2, 2, 2, 2, 3, 3, 3, 3, 4, 4, 4, 4, 5, 5, 5, 5, 0]

/-- Base distances of the distance symbols 0 to 29. -/
def distBase : Array Nat :=
  #[1, 2, 3, 4, 5, 7, 9, 13, 17, 25, 33, 49, 65, 97, 129, 193, 257, 385, 513, 769, 1025, 1537,
    2049, 3073, 4097, 6145, 8193, 12289, 16385, 24577]

/-- Extra bits of the distance symbols 0 to 29. -/
def distExtra : Array Nat :=
  #[0, 0, 0, 0, 1, 1, 2, 2, 3, 3, 4, 4, 5, 5, 6, 6, 7, 7, 8, 8, 9, 9, 10, 10, 11, 11, 12, 12, 13, 13]

/-- Copies `n` bytes from `dist` bytes back, one at a time, so that a copy may overlap
what it writes. -/
def copyBack (dist : Nat) : Nat → ByteArray → ByteArray
  | 0, out => out
  | n + 1, out => copyBack dist n (out.push (out[out.size - dist]?.getD 0))

/-- Decodes the symbols of a Huffman block up to its end symbol; `base` is where this
stream's output starts. -/
def decodeSymbols (lit dist : Huffman) (base : Nat) :
    Nat → BitReader → ByteArray → Inflating (BitReader × ByteArray)
  | 0, _, _ => .error .corrupt
  | fuel + 1, r, out => do
    let (s, r) ← lit.decode r
    if s < 256 then decodeSymbols lit dist base fuel r (out.push s.toUInt8)
    else if s == 256 then return (r, out)
    else
      let i := s - 257
      let some lb := lengthBase[i]? | .error .corrupt
      let (le, r) ← need (r.bits (lengthExtra[i]?.getD 0))
      let (d, r) ← dist.decode r
      let some db := distBase[d]? | .error .corrupt
      let (de, r) ← need (r.bits (distExtra[d]?.getD 0))
      let back := db + de
      ensure (back ≤ out.size - base)
      decodeSymbols lit dist base fuel r (copyBack back (lb + le) out)

/-- The order in which code length code lengths are sent. -/
def codeLengthOrder : List Nat := [16, 17, 18, 0, 8, 7, 9, 6, 10, 5, 11, 4, 12, 3, 13, 2, 14, 1, 15]

/-- Reads `n` code lengths with the code length code. -/
def readLengths (cl : Huffman) (n : Nat) : Nat → BitReader → Array Nat → Inflating (Array Nat × BitReader)
  | 0, _, _ => .error .corrupt
  | fuel + 1, r, acc =>
    if acc.size ≥ n then do
      ensure (acc.size == n)
      return (acc, r)
    else do
      let (s, r) ← cl.decode r
      if s < 16 then readLengths cl n fuel r (acc.push s)
      else if s == 16 then
        let some prev := acc.back? | .error .corrupt
        let (k, r) ← need (r.bits 2)
        readLengths cl n fuel r (acc ++ Array.replicate (3 + k) prev)
      else if s == 17 then
        let (k, r) ← need (r.bits 3)
        readLengths cl n fuel r (acc ++ Array.replicate (3 + k) 0)
      else
        let (k, r) ← need (r.bits 7)
        readLengths cl n fuel r (acc ++ Array.replicate (11 + k) 0)

/-- Reads the codes sent ahead of a dynamic block. -/
def readDynamic (r : BitReader) : Inflating (Huffman × Huffman × BitReader) := do
  let (hlit, r) ← need (r.bits 5)
  let (hdist, r) ← need (r.bits 5)
  let (hclen, r) ← need (r.bits 4)
  ensure (hlit + 257 ≤ 286 && hdist + 1 ≤ 30)
  let (clLengths, r) ← (codeLengthOrder.take (hclen + 4)).foldlM (fun (acc, r) idx => do
      let (l, r) ← need (r.bits 3)
      return (acc.set! idx l, r)) (Array.replicate 19 0, r)
  ensure (Huffman.usable clLengths)
  let cl := Huffman.ofLengths clLengths
  let total := hlit + 257 + hdist + 1
  let (lengths, r) ← readLengths cl total (total + 1) r #[]
  let litLengths := lengths.extract 0 (hlit + 257)
  let distLengths := lengths.extract (hlit + 257) total
  ensure (Huffman.usable litLengths && Huffman.usable distLengths)
  return (Huffman.ofLengths litLengths, Huffman.ofLengths distLengths, r)

/-- Copies a stored block. -/
def storedBlock (r : BitReader) (out : ByteArray) : Inflating (BitReader × ByteArray) := do
  let r := r.align
  let p := r.pos / 8
  let len ← need (readLE r.bytes p 2)
  let nlen ← need (readLE r.bytes (p + 2) 2)
  ensure (len + nlen == 0xFFFF)
  let data ← need (slice r.bytes (p + 4) (p + 4 + len))
  return ({ r with pos := 8 * (p + 4 + len) }, out ++ data)

/-- Inflates blocks until the last one. -/
def inflateBlocks (base : Nat) : Nat → BitReader → ByteArray → Inflating (BitReader × ByteArray)
  | 0, _, _ => .error .corrupt
  | fuel + 1, r, out => do
    let (final, r) ← need (r.bits 1)
    let (kind, r) ← need (r.bits 2)
    let (r, out) ← match kind with
      | 0 => storedBlock r out
      | 1 => decodeSymbols fixedLit fixedDist base (r.remaining + 1) r out
      | 2 => do
        let (lit, dist, r) ← readDynamic r
        decodeSymbols lit dist base (r.remaining + 1) r out
      | _ => .error .corrupt
    if final == 1 then return (r, out) else inflateBlocks base fuel r out

/-- Inflates the deflate stream that starts at byte `start`, appending to `out`. Returns
the position of the first byte after the stream and the output. -/
def inflateAt (bytes : ByteArray) (start : Nat) (out : ByteArray) : Inflating (Nat × ByteArray) := do
  let r : BitReader := ⟨bytes, 8 * start⟩
  let (r, out) ← inflateBlocks out.size (r.remaining + 1) r out
  return (r.bytePos, out)

end DumpTopology.Codec
