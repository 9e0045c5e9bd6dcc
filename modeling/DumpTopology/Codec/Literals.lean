import DumpTopology.Codec.Fse

/-!
# Literals of compressed Zstandard blocks

A compressed block starts with its literals: raw bytes, one byte repeated, or bytes
coded with a prefix code, in one stream or in four streams that each decode a quarter.

A prefix code is described by the weights of its symbols, all but the last given and the
last implied: a weight `w > 0` gives a code of `maxBits + 1 - w` bits, where `2^maxBits`
is the smallest power of two above the sum of `2^(w-1)`, and the last weight fills the
sum up to it, which must leave a power of two. Weights are given four bits each, or
FSE-coded with two interleaved states that alternate until the stream runs out.

Codes are assigned in order of weight, then of symbol, so a table indexed by the next
`maxBits` bits of a stream gives each symbol `2^(w-1)` consecutive entries. Each stream
must be read to its last bit exactly. A block may reuse the code of an earlier block of
its frame.
-/
namespace DumpTopology.Codec

/-- A prefix code table: the longest code and, for each `maxBits`-bit prefix, its symbol
and the length of its code. -/
structure PrefixTable where
  maxBits : Nat
  cells : Array (Nat × Nat)
  deriving Inhabited

/-- The table of the given weights and the implied last one. -/
def PrefixTable.ofWeights (weights : Array Nat) : Unzstd PrefixTable := do
  if weights.any (· > 12) then throw .corrupt
  let total := weights.foldl (fun acc w => if w > 0 then acc + Nat.pow 2 (w - 1) else acc) 0
  if total == 0 then throw .corrupt
  let maxBits := Nat.log2 total + 1
  if maxBits > 12 then throw .corrupt
  let rest := Nat.pow 2 maxBits - total
  if rest != Nat.pow 2 (Nat.log2 rest) then throw .corrupt
  let all := weights.push (Nat.log2 rest + 1)
  let ones := (all.toList.filter (· == 1)).length
  if ones < 2 || ones % 2 == 1 then throw .corrupt
  let cells := (List.range maxBits).flatMap fun i =>
    ((List.range all.size).filter fun s => all[s]?.getD 0 == i + 1).flatMap fun s =>
      List.replicate (Nat.pow 2 i) (s, maxBits - i)
  return ⟨maxBits, cells.toArray⟩

/-- Decodes FSE-coded weights: the two states take turns, each giving its symbol and
then moving on; when moving on runs past the stream, the other state gives one last
symbol. At most 255 weights are read. -/
def fseSymbols (t : FseTable) : Nat → Nat → Nat → BackBits → Array Nat → Unzstd (Array Nat)
  | 0, _, _, _, _ => .error .corrupt
  | fuel + 1, s1, s2, r, out =>
    if out.size > 253 then .error .corrupt
    else
      let out := out.push (t.cell s1).symbol
      let (s1, r) := t.next s1 r
      if r.overrun then .ok (out.push (t.cell s2).symbol)
      else fseSymbols t fuel s2 s1 r out

/-- Reads the weights of a prefix code at `pos`, before `stop`. Returns them and the
byte after them. -/
def readWeights (bytes : ByteArray) (pos stop : Nat) : Unzstd (Array Nat × Nat) := do
  let some header := bytes[pos]? | throw .corrupt
  let header := header.toNat
  if pos + 1 > stop then throw .corrupt
  if header ≥ 128 then
    let count := header - 127
    let size := (count + 1) / 2
    if pos + 1 + size > stop then throw .corrupt
    let weights := (List.range count).map fun n =>
      let b := (bytes[pos + 1 + n / 2]?.getD 0).toNat
      if n % 2 == 0 then b / 16 else b % 16
    return (weights.toArray, pos + 1 + size)
  else
    let stop' := pos + 1 + header
    if stop' > stop then throw .corrupt
    let (log, probs, p) ← readDistribution bytes (pos + 1) stop' 255 6
    let t ← FseTable.build log probs
    let some r := BackBits.open? bytes p stop' | throw .corrupt
    let (s1, r) := t.first r
    let (s2, r) := t.first r
    if r.overrun then throw .corrupt
    let weights ← fseSymbols t 256 s1 s2 r #[]
    return (weights, stop')

/-- Decodes `count` symbols of one stream, the bytes from `start` to `stop`, which must
be read exactly. -/
def decodeStream (t : PrefixTable) (bytes : ByteArray) (start stop count : Nat) (out : ByteArray) :
    Unzstd ByteArray := do
  let some r := BackBits.open? bytes start stop | throw .corrupt
  let (r, out) := (List.range count).foldl (fun (r, out) _ =>
      let (s, len) := t.cells[r.peek t.maxBits]?.getD (0, 0)
      ((r.read len).2, out.push s.toUInt8)) (r, out)
  if r.finished then return out else throw .corrupt

/-- Decodes coded literals from the bytes between `start` and `stop`: one stream, or
four after a table of the sizes of the first three. -/
def decodeLiterals (t : PrefixTable) (bytes : ByteArray) (start stop size : Nat) (four : Bool) :
    Unzstd ByteArray := do
  if !four then return ← decodeStream t bytes start stop size ByteArray.empty
  let some s1 := readLE bytes start 2 | throw .corrupt
  let some s2 := readLE bytes (start + 2) 2 | throw .corrupt
  let some s3 := readLE bytes (start + 4) 2 | throw .corrupt
  let a := start + 6
  if a + s1 + s2 + s3 > stop then throw .corrupt
  let quarter := (size + 3) / 4
  let out ← decodeStream t bytes a (a + s1) quarter ByteArray.empty
  let out ← decodeStream t bytes (a + s1) (a + s1 + s2) quarter out
  let out ← decodeStream t bytes (a + s1 + s2) (a + s1 + s2 + s3) quarter out
  decodeStream t bytes (a + s1 + s2 + s3) stop (size - 3 * quarter) out

/-- The literals of a block: the bytes, where the section ends, and the prefix code the
next block may reuse. `limit` bounds how many literals a block may have. -/
def readLiteralsSection (bytes : ByteArray) (stop limit : Nat) (code : Option PrefixTable) :
    Unzstd (ByteArray × Nat × Option PrefixTable) := do
  let some b0 := bytes[0]? | throw .corrupt
  let b0 := b0.toNat
  let kind := b0 % 4
  let format := (b0 / 4) % 4
  if stop < 2 then throw .corrupt
  if kind < 2 then
    let (size, header) : Nat × Nat := match format with
      | 1 => (b0 / 16 + 16 * (bytes[1]?.getD 0).toNat, 2)
      | 3 => (b0 / 16 + 16 * (bytes[1]?.getD 0).toNat + 4096 * (bytes[2]?.getD 0).toNat, 3)
      | _ => (b0 / 8, 1)
    if header > stop || size > limit then throw .corrupt
    if kind == 0 then
      let some lits := slice bytes header (header + size) | throw .corrupt
      if header + size > stop then throw .corrupt
      return (lits, header + size, code)
    else
      let some b := bytes[header]? | throw .corrupt
      if header + 1 > stop then throw .corrupt
      return (ByteArray.mk (Array.replicate size b), header + 1, code)
  else
    if stop < 5 then throw .corrupt
    let header := match format with | 2 => 4 | 3 => 5 | _ => 3
    let some v := readLE bytes 0 header | throw .corrupt
    let sizeBits := match format with | 2 => 14 | 3 => 18 | _ => 10
    let size := (v / 16) % Nat.pow 2 sizeBits
    let compressed := (v / Nat.pow 2 (4 + sizeBits)) % Nat.pow 2 sizeBits
    let four := format != 0
    if size > limit then throw .corrupt
    if header + compressed > stop then throw .corrupt
    if four && size < 6 then throw .corrupt
    let (t, start) ← if kind == 2 then do
        let (weights, p) ← readWeights bytes header (header + compressed)
        if p ≥ header + compressed then throw .corrupt
        pure (← PrefixTable.ofWeights weights, p)
      else match code with
        | some t => pure (t, header)
        | none => throw .corrupt
    let lits ← decodeLiterals t bytes start (header + compressed) size four
    return (lits, header + compressed, some t)

end DumpTopology.Codec
