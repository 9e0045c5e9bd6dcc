import DumpTopology.Codec.ZstdBlock
import DumpTopology.Codec.Xxh64

/-!
# Zstandard frames

A Zstandard stream is a run of frames, each either a skippable frame, which is passed
over, or a frame of blocks: raw blocks copy bytes, RLE blocks repeat one byte, and
compressed blocks are decoded in turn. The output is that of all frames in order, and
every byte of the stream must belong to a frame; an empty stream does not decode.

A frame's header may state its content size, which the output must then have, and may
ask for a checksum, the low 32 bits of the XXH64 of the frame's output. Frames that need
a dictionary, a window past 2^27 + 1 bytes, or set the reserved bit are refused.
-/
namespace DumpTopology.Codec

/-- The magic number of a frame. -/
def zstdMagic : Nat := 0xFD2FB528

/-- Whether a number is the magic of a skippable frame. -/
def isSkippableMagic (m : Nat) : Bool := m / 16 == 0x184D2A5

/-- The largest block content. -/
def maxBlockSize : Nat := 128 * 1024

/-- Whether bytes, fewer than four, can still begin the magic of a frame. -/
def magicPrefix (avail : List Nat) : Bool :=
  let okFrame := avail == [0x28, 0xB5, 0x2F, 0xFD].take avail.length
  let okSkippable := match avail with
    | [] => true
    | b :: rest => b / 16 == 5 && rest == [0x2A, 0x4D].take rest.length
  okFrame || okSkippable

/-- A read of input that leaves the frame incomplete when it fails. -/
def needInput {α : Type} : Option α → Unzstd α
  | some a => .ok a
  | none => .error .incomplete

/-- The header of a frame. -/
structure FrameHeader where
  contentSize : Option Nat
  /-- The window: how far back matches may reach, and so the most a block may give. -/
  window : Nat
  checksum : Bool
  /-- Where the first block starts. -/
  body : Nat

/-- Reads the header of a frame whose magic has been read; `pos` is after it. -/
def readFrameHeader (bytes : ByteArray) (pos : Nat) : Unzstd FrameHeader := do
  let fhd := (← needInput bytes[pos]?).toNat
  let fcsFlag := fhd / 64
  let single := (fhd / 32) % 2 == 1
  let checksum := (fhd / 4) % 2 == 1
  let dictFlag := fhd % 4
  if (fhd / 8) % 2 == 1 then throw .unsupported
  let mut p := pos + 1
  let mut window := 0
  if !single then
    let wd := (← needInput bytes[p]?).toNat
    let exponent := wd / 8
    let base := Nat.pow 2 (10 + exponent)
    window := base + (base / 8) * (wd % 8)
    p := p + 1
  let dictSize := match dictFlag with | 0 => 0 | 1 => 1 | 2 => 2 | _ => 4
  let dictId ← needInput (readLE bytes p dictSize)
  p := p + dictSize
  let fcsSize := match fcsFlag with | 0 => if single then 1 else 0 | 1 => 2 | 2 => 4 | _ => 8
  let fcs ← needInput (readLE bytes p fcsSize)
  p := p + fcsSize
  let contentSize := if fcsSize == 0 then none else if fcsSize == 2 then some (fcs + 256) else some fcs
  if single then window := contentSize.getD 0
  if dictId != 0 then throw .dictionary
  if window > Nat.pow 2 27 + 1 then throw .windowTooLarge
  return ⟨contentSize, window, checksum, p⟩

/-- Decodes the blocks of a frame from `pos`, appending to the frame's output; no block
may hold or give more than `limit` bytes. Returns where the blocks end. -/
def decodeBlocks (bytes : ByteArray) (limit : Nat) : Nat → Nat → BlockState → ByteArray → Unzstd (Nat × ByteArray)
  | 0, _, _, _ => .error .corrupt
  | fuel + 1, pos, st, out => do
    let header ← needInput (readLE bytes pos 3)
    let last := header % 2 == 1
    let kind := (header / 2) % 4
    let size := header / 8
    let start := pos + 3
    if kind == 3 || size > limit then throw .corrupt
    let (next, st, out) ← match kind with
      | 0 => do
        let data ← needInput (slice bytes start (start + size))
        pure (start + size, st, out ++ data)
      | 1 => do
        let b ← needInput bytes[start]?
        pure (start + 1, st, out ++ ByteArray.mk (Array.replicate size b))
      | _ => do
        let data ← needInput (slice bytes start (start + size))
        let (st, out) ← decodeCompressed st data limit out
        pure (start + size, st, out)
    if last then return (next, out) else decodeBlocks bytes limit fuel next st out

/-- Decodes one frame at `pos`, appending its output. Returns where the next frame
starts. -/
def decodeFrame (bytes : ByteArray) (pos : Nat) (out : ByteArray) : Unzstd (Nat × ByteArray) := do
  if bytes.size < pos + 4 then
    if magicPrefix ((bytes.extract pos bytes.size).toList.map UInt8.toNat) then throw .incomplete
    else throw .unknownFrame
  let magic := (readLE bytes pos 4).getD 0
  if isSkippableMagic magic then
    let size ← needInput (readLE bytes (pos + 4) 4)
    if bytes.size < pos + 8 + size then throw .incomplete
    return (pos + 8 + size, out)
  if magic != zstdMagic then throw .unknownFrame
  let h ← readFrameHeader bytes (pos + 4)
  let (next, frame) ← decodeBlocks bytes (min h.window maxBlockSize) (bytes.size + 1) h.body {} ByteArray.empty
  if let some n := h.contentSize then
    if n != frame.size then throw .corrupt
  let next ← if h.checksum then do
      let stored ← needInput (readLE bytes next 4)
      if stored != (xxh64 frame).toNat % Nat.pow 2 32 then throw .checksum
      pure (next + 4)
    else pure next
  return (next, out ++ frame)

/-- Decodes frames from `pos` until the input ends. -/
def decodeFrames (bytes : ByteArray) : Nat → Nat → ByteArray → Unzstd ByteArray
  | 0, _, out => .ok out
  | fuel + 1, pos, out => do
    let (next, out) ← decodeFrame bytes pos out
    if next ≥ bytes.size then return out else decodeFrames bytes fuel next out

/-- Decodes a Zstandard stream. -/
def unzstd (bytes : ByteArray) : Unzstd ByteArray :=
  if bytes.size == 0 then .error .incomplete else decodeFrames bytes (bytes.size + 1) 0 ByteArray.empty

end DumpTopology.Codec
