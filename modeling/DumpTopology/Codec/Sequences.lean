import DumpTopology.Codec.Fse

/-!
# Sequences of compressed Zstandard blocks

After its literals, a compressed block holds sequences: each copies a number of literals
to the output and then a match, a run of bytes found earlier in the output at some
offset. The literal length, match length and offset of a sequence are coded as symbols of
three FSE tables, each symbol standing for a base and a number of extra bits read from
the stream; the three states are read in that order at the start, and updated after each
sequence but the last in the order literal length, match length, offset.

An offset value of 4 or more is a new offset, three less. Values 1 to 3 repeat one of the
three most recent offsets, shifted by one when the literal length is zero, the fourth
choice being the most recent offset less one. A new or repeated offset becomes the most
recent, the others moving down behind it.

Each table is given as predefined, as one symbol, by a distribution, or as the table the
previous block with sequences used; the stream of sequences must be read exactly.
-/
namespace DumpTopology.Codec

/-- The base and extra bits of each literal length code. -/
def literalLengthCodes : Array (Nat × Nat) :=
  (List.range 16).toArray.map (·, 0) ++
  #[(16, 1), (18, 1), (20, 1), (22, 1), (24, 2), (28, 2), (32, 3), (40, 3), (48, 4), (64, 6),
    (128, 7), (256, 8), (512, 9), (1024, 10), (2048, 11), (4096, 12), (8192, 13), (16384, 14),
    (32768, 15), (65536, 16)]

/-- The base and extra bits of each match length code. -/
def matchLengthCodes : Array (Nat × Nat) :=
  (List.range 32).toArray.map (· + 3, 0) ++
  #[(35, 1), (37, 1), (39, 1), (41, 1), (43, 2), (47, 2), (51, 3), (59, 3), (67, 4), (83, 4),
    (99, 5), (131, 7), (259, 8), (515, 9), (1027, 10), (2051, 11), (4099, 12), (8195, 13),
    (16387, 14), (32771, 15), (65539, 16)]

/-- The predefined distribution of literal length codes, out of `2^6`. -/
def literalLengthDefault : Array Int :=
  #[4, 3, 2, 2, 2, 2, 2, 2, 2, 2, 2, 2, 2, 1, 1, 1, 2, 2, 2, 2, 2, 2, 2, 2, 2, 3, 2, 1, 1, 1, 1, 1,
    -1, -1, -1, -1]

/-- The predefined distribution of match length codes, out of `2^6`. -/
def matchLengthDefault : Array Int :=
  #[1, 4, 3, 2, 2, 2, 2, 2, 2, 1, 1, 1, 1, 1, 1, 1, 1, 1, 1, 1, 1, 1, 1, 1, 1, 1, 1, 1, 1, 1, 1, 1,
    1, 1, 1, 1, 1, 1, 1, 1, 1, 1, 1, 1, 1, 1, -1, -1, -1, -1, -1, -1, -1]

/-- The predefined distribution of offset codes, out of `2^5`. -/
def offsetDefault : Array Int :=
  #[1, 1, 1, 1, 1, 1, 2, 2, 2, 1, 1, 1, 1, 1, 1, 1, 1, 1, 1, 1, 1, 1, 1, 1, -1, -1, -1, -1, -1]

/-- The three tables of a block's sequences. -/
structure SequenceTables where
  literals : FseTable
  offsets : FseTable
  matchLengths : FseTable
  deriving Inhabited

/-- What one kind of table is: its largest symbol and accuracy log, and its predefined
distribution with that distribution's log. -/
structure TableKind where
  maxSymbol : Nat
  maxLog : Nat
  defaultLog : Nat
  defaults : Array Int

/-- Literal lengths. -/
def literalKind : TableKind := ⟨35, 9, 6, literalLengthDefault⟩

/-- Offsets. -/
def offsetKind : TableKind := ⟨31, 8, 5, offsetDefault⟩

/-- Match lengths. -/
def matchKind : TableKind := ⟨52, 9, 6, matchLengthDefault⟩

/-- Reads one table as `mode` says, from `pos`: predefined, one symbol, a distribution, or
the previous table. Returns it and the byte after its description. -/
def readTable (k : TableKind) (mode : Nat) (bytes : ByteArray) (pos stop : Nat)
    (previous : Option FseTable) : Unzstd (FseTable × Nat) := do
  match mode with
  | 0 => return (← FseTable.build k.defaultLog k.defaults, pos)
  | 1 =>
    let some b := bytes[pos]? | throw .corrupt
    if pos ≥ stop || b.toNat > k.maxSymbol then throw .corrupt
    return (FseTable.single b.toNat, pos + 1)
  | 2 =>
    let (log, probs, p) ← readDistribution bytes pos stop k.maxSymbol k.maxLog
    return (← FseTable.build log probs, p)
  | _ =>
    match previous with
    | some t => return (t, pos)
    | none => throw .corrupt

/-- The number of sequences and the byte after it. -/
def readSequenceCount (bytes : ByteArray) (pos stop : Nat) : Unzstd (Nat × Nat) := do
  let byte (i : Nat) : Nat := (bytes[i]?.getD 0).toNat
  if pos ≥ stop then throw .corrupt
  let b0 := byte pos
  if b0 < 128 then return (b0, pos + 1)
  else if b0 < 255 then
    if pos + 2 > stop then throw .corrupt
    return ((b0 - 128) * 256 + byte (pos + 1), pos + 2)
  else
    if pos + 3 > stop then throw .corrupt
    return (byte (pos + 1) + 256 * byte (pos + 2) + 0x7F00, pos + 3)

/-- One decoded sequence. -/
structure Sequence where
  literalLength : Nat
  matchLength : Nat
  offset : Nat
  deriving Repr, Inhabited

/-- The three most recent offsets, most recent first. -/
abbrev RecentOffsets := Nat × Nat × Nat

/-- The offset an offset value stands for, with the recent offsets after it. -/
def resolveOffset (value literalLength : Nat) (recent : RecentOffsets) : Nat × RecentOffsets :=
  let (r1, r2, r3) := recent
  if value > 3 then (value - 3, (value - 3, r1, r2))
  else
    match value + (if literalLength == 0 then 1 else 0) with
    | 1 => (r1, recent)
    | 2 => (r2, (r2, r1, r3))
    | 3 => (r3, (r3, r1, r2))
    | _ => (r1 - 1, (r1 - 1, r1, r2))

/-- Where decoding sequences is: the three states, the stream and the recent offsets. -/
structure SequenceReading where
  literalState : Nat
  offsetState : Nat
  matchState : Nat
  bits : BackBits
  recent : RecentOffsets

/-- Decodes one sequence; the states move on unless it is the last. -/
def SequenceReading.decode (t : SequenceTables) (s : SequenceReading) (last : Bool) :
    Sequence × SequenceReading :=
  let ofCode := (t.offsets.cell s.offsetState).symbol
  let mlCode := (t.matchLengths.cell s.matchState).symbol
  let llCode := (t.literals.cell s.literalState).symbol
  let (ofExtra, r) := s.bits.read ofCode
  let (mlBase, mlBits) := matchLengthCodes[mlCode]?.getD (0, 0)
  let (mlExtra, r) := r.read mlBits
  let (llBase, llBits) := literalLengthCodes[llCode]?.getD (0, 0)
  let (llExtra, r) := r.read llBits
  let literalLength := llBase + llExtra
  let (offset, recent) := resolveOffset (Nat.pow 2 ofCode + ofExtra) literalLength s.recent
  let seq : Sequence := ⟨literalLength, mlBase + mlExtra, offset⟩
  if last then (seq, { s with bits := r, recent })
  else
    let (literalState, r) := t.literals.next s.literalState r
    let (matchState, r) := t.matchLengths.next s.matchState r
    let (offsetState, r) := t.offsets.next s.offsetState r
    (seq, { literalState, offsetState, matchState, bits := r, recent })

/-- Copies a match: `length` bytes from `offset` back, one at a time, so a match may
overlap the bytes it writes. -/
def copyMatch (offset : Nat) : Nat → ByteArray → ByteArray
  | 0, out => out
  | n + 1, out => copyMatch offset n (out.push (out[out.size - offset]?.getD 0))

/-- Carries out sequences: each copies its literals, which must be there, then its match,
whose offset may not reach before the start of the frame's output. Returns the reading,
where the literals stand, and the output. -/
def runSequences (t : SequenceTables) (lits : ByteArray) :
    Nat → SequenceReading → Nat → ByteArray → Unzstd (SequenceReading × Nat × ByteArray)
  | 0, s, litPos, out => .ok (s, litPos, out)
  | n + 1, s, litPos, out => do
    let (seq, s) := s.decode t (n == 0)
    if litPos + seq.literalLength > lits.size then throw .corrupt
    let out := out ++ lits.extract litPos (litPos + seq.literalLength)
    if seq.offset == 0 || seq.offset > out.size then throw .corrupt
    runSequences t lits n s (litPos + seq.literalLength) (copyMatch seq.offset seq.matchLength out)

end DumpTopology.Codec
