import DumpTopology.Codec.Literals
import DumpTopology.Codec.Sequences

/-!
# Compressed Zstandard blocks

A compressed block is its literals and then its sequences. With no sequences the block's
output is its literals, and nothing may follow the count; otherwise a byte gives how each
of the three tables is sent (its two low bits must be zero), the table descriptions
follow, and the rest of the block is the stream of sequences. The literals left after the
last sequence end the block's output.

The blocks of a frame pass on what later blocks may reuse: the prefix code of the last
coded literals, the tables of the last block with sequences, and the recent offsets.
A block's output, and its literals, may not pass the frame's block size limit.
-/
namespace DumpTopology.Codec

/-- What the compressed blocks of a frame pass on to the next. -/
structure BlockState where
  /-- The three most recent offsets, most recent first. -/
  offsets : RecentOffsets := (1, 4, 8)
  /-- The prefix code of the last coded literals. -/
  code : Option PrefixTable := none
  /-- The tables of the last block with sequences. -/
  tables : Option SequenceTables := none
  deriving Inhabited

/-- Decodes one compressed block, appending to the frame's output `out`. `limit` is the
most a block may give. -/
def decodeCompressed (st : BlockState) (block : ByteArray) (limit : Nat) (out : ByteArray) :
    Unzstd (BlockState × ByteArray) := do
  let stop := block.size
  let (lits, p, code) ← readLiteralsSection block stop limit st.code
  let st := { st with code }
  let (count, p) ← readSequenceCount block p stop
  if count == 0 then
    if p != stop then throw .corrupt
    return (st, out ++ lits)
  let some modes := block[p]? | throw .corrupt
  let modes := modes.toNat
  if modes % 4 != 0 then throw .corrupt
  let (literals, p) ← readTable literalKind (modes / 64) block (p + 1) stop (st.tables.map (·.literals))
  let (offsets, p) ← readTable offsetKind ((modes / 16) % 4) block p stop (st.tables.map (·.offsets))
  let (matchLengths, p) ← readTable matchKind ((modes / 4) % 4) block p stop
    (st.tables.map (·.matchLengths))
  let tables : SequenceTables := { literals, offsets, matchLengths }
  let some bits := BackBits.open? block p stop | throw .corrupt
  let (literalState, bits) := literals.first bits
  let (offsetState, bits) := offsets.first bits
  let (matchState, bits) := matchLengths.first bits
  let start := out.size
  let (s, litPos, out) ← runSequences tables lits count
    { literalState, offsetState, matchState, bits, recent := st.offsets } 0 out
  if !s.bits.finished then throw .corrupt
  let out := out ++ lits.extract litPos lits.size
  if out.size - start > limit then throw .corrupt
  return ({ st with offsets := s.recent, tables := some tables }, out)

end DumpTopology.Codec
