import DumpTopology.Codec.Inflate
import DumpTopology.Codec.Crc32

/-!
# Gzip

A gzip file is one or more members, each a header, a deflate stream and a trailer with
the CRC-32 and the length modulo 2^32 of the member's output. The output is that of all
members in order; every byte of the file must belong to a member.

A header is ten bytes, of which the first two are the magic `1f 8b` and the third the
method 8, followed, as its flags ask, by an extra field, a name, a comment and a
16-bit check of the header itself.
-/
namespace DumpTopology.Codec

/-- Why a gzip file does not decode. -/
inductive GzipFault
  | badHeader
  | truncated
  | corrupt
  | mismatch
  deriving BEq, Repr, Inhabited

/-- The text of a gzip fault. -/
def GzipFault.message : GzipFault → String
  | .badHeader => "invalid gzip header"
  | .truncated => "unexpected end of file"
  | .corrupt => "corrupt deflate stream"
  | .mismatch => "corrupt gzip stream does not have a matching checksum"

/-- Reading a gzip file. -/
abbrev Gunzipping := Except GzipFault

/-- A read of input that ends the file early when it fails. -/
def needBytes {α : Type} : Option α → Gunzipping α
  | some a => .ok a
  | none => .error .truncated

/-- The position after the zero byte that ends a text field starting at `pos`. -/
def skipText (bytes : ByteArray) : Nat → Nat → Gunzipping Nat
  | 0, _ => .error .truncated
  | fuel + 1, pos =>
    match bytes[pos]? with
    | none => .error .truncated
    | some 0 => .ok (pos + 1)
    | some _ => skipText bytes fuel (pos + 1)

/-- Reads a member header at `start` and returns where its deflate stream begins. -/
def readHeader (bytes : ByteArray) (start : Nat) : Gunzipping Nat := do
  let head ← needBytes (slice bytes start (start + 10))
  if head[0]! != 0x1f || head[1]! != 0x8b || head[2]! != 8 then throw .badHeader
  let flags := head[3]!
  let mut pos := start + 10
  if flags &&& 4 != 0 then
    let xlen ← needBytes (readLE bytes pos 2)
    discard (needBytes (slice bytes (pos + 2) (pos + 2 + xlen)))
    pos := pos + 2 + xlen
  if flags &&& 8 != 0 then pos ← skipText bytes (bytes.size + 1) pos
  if flags &&& 16 != 0 then pos ← skipText bytes (bytes.size + 1) pos
  if flags &&& 2 != 0 then
    let stored ← needBytes (readLE bytes pos 2)
    if stored != (crc32 (bytes.extract start pos)).toNat % 65536 then throw .mismatch
    pos := pos + 2
  return pos

/-- Decodes one member at `start`, appending its output. Returns where the next one
starts. -/
def gunzipMember (bytes : ByteArray) (start : Nat) (out : ByteArray) : Gunzipping (Nat × ByteArray) := do
  let body ← readHeader bytes start
  let (stop, out') ← match inflateAt bytes body out with
    | .ok r => pure r
    | .error .truncated => throw .truncated
    | .error .corrupt => throw .corrupt
  let member := out'.extract out.size out'.size
  let crc ← needBytes (readLE bytes stop 4)
  let size ← needBytes (readLE bytes (stop + 4) 4)
  if crc != (crc32 member).toNat || size != member.size % Nat.pow 2 32 then throw .mismatch
  return (stop + 8, out')

/-- Decodes members from `start` until the input ends. -/
def gunzipFrom (bytes : ByteArray) : Nat → Nat → ByteArray → Gunzipping ByteArray
  | 0, _, out => .ok out
  | fuel + 1, start, out => do
    let (next, out) ← gunzipMember bytes start out
    if next ≥ bytes.size then return out else gunzipFrom bytes fuel next out

/-- Decodes a gzip file of one or more members. -/
def gunzip (bytes : ByteArray) : Gunzipping ByteArray := gunzipFrom bytes (bytes.size + 1) 0 ByteArray.empty

end DumpTopology.Codec
