import DumpTopology.Codec.Backward
import DumpTopology.Codec.ZstdFault

/-!
# Finite state entropy tables

An FSE table decodes symbols from a backward bit stream with a state: the state's cell
gives a symbol, and the bits it names, added to its base, are the next state.

A table is described by a distribution: an accuracy log `L` and, per symbol, a
probability out of `2^L`, where `-1` stands for "less than one" and takes one cell. The
description is read forwards, least significant bits first:

* four bits give `L - 5`;
* each probability plus one is read in as many bits as the probability still to share out
  needs, one bit less for the smaller values that leave room for it;
* after a zero probability, two-bit flags count more zero probabilities, a flag of 3
  being followed by another;
* the probabilities must share out exactly `2^L`.

The table spreads each symbol's cells over the states with a fixed odd step, the
less-than-one symbols taking the last states; the cells of a symbol, in state order, are
then given the bit counts and bases that cover `2^L` states between them.
-/
namespace DumpTopology.Codec

/-- A state of an FSE table: the symbol it stands for, how many bits the next state
needs, and the base those bits are added to. -/
structure FseCell where
  symbol : Nat
  bits : Nat
  base : Nat
  deriving Inhabited, Repr

/-- An FSE table: its accuracy log and a cell per state. -/
structure FseTable where
  log : Nat
  cells : Array FseCell
  deriving Inhabited

/-- Where the reading of a distribution is: the next bit, the probability still to share
out, the current threshold and width of a value, the probabilities read, and whether the
last was zero. -/
structure CountReading where
  bit : Nat
  remaining : Int
  threshold : Nat
  width : Nat
  probs : Array Int
  previousZero : Bool

/-- The run of zero probabilities after a zero: two-bit flags, each adding its value, a
flag of 3 followed by another. Returns the symbol after the run and the next bit. -/
def zeroRun (peek : Nat → Nat → Nat) : Nat → Nat → Nat → Nat × Nat
  | 0, bit, n => (n, bit)
  | fuel + 1, bit, n =>
    let v := peek bit 2
    if v == 3 then zeroRun peek fuel (bit + 2) (n + 3) else (n + v, bit + 2)

/-- Reads probabilities until `2^L` is shared out or the symbols run out; each round
reads at least one probability. -/
def readCounts (peek : Nat → Nat → Nat) (maxSymbol : Nat) : Nat → CountReading → Unzstd CountReading
  | 0, r => .ok r
  | fuel + 1, r =>
    if r.remaining ≤ 1 || r.probs.size > maxSymbol then .ok r
    else do
      let r ← if r.previousZero then
          let (n0, bit) := zeroRun peek (maxSymbol + 1) r.bit r.probs.size
          if n0 > maxSymbol then throw .corrupt
          pure { r with bit, probs := r.probs ++ Array.replicate (n0 - r.probs.size) 0 }
        else pure r
      let top : Int := 2 * (r.threshold : Int) - 1 - r.remaining
      let v := peek r.bit r.width
      let low := v % r.threshold
      let (value, used) : Int × Nat :=
        if (low : Int) < top then (low, r.width - 1)
        else
          let c := v % (2 * r.threshold)
          (if c ≥ r.threshold then (c : Int) - top else c, r.width)
      let count := value - 1
      let remaining := r.remaining - count.natAbs
      let (width, threshold) :=
        if remaining < (r.threshold : Int) && remaining > 1 then
          (Nat.log2 remaining.toNat + 1, Nat.pow 2 (Nat.log2 remaining.toNat))
        else (r.width, r.threshold)
      readCounts peek maxSymbol fuel
        { bit := r.bit + used, remaining, threshold, width, probs := r.probs.push count,
          previousZero := count == 0 }

/-- Reads a distribution from the bytes between `start` and `stop`, for symbols up to
`maxSymbol` and an accuracy log up to `maxLog`. Returns the log, the probabilities and
the byte after the description. -/
def readDistribution (bytes : ByteArray) (start stop maxSymbol maxLog : Nat) :
    Unzstd (Nat × Array Int × Nat) := do
  let peek (bit k : Nat) : Nat := bitsAt bytes start stop bit k
  let log := peek 0 4 + 5
  if log > maxLog then throw .corrupt
  let r ← readCounts peek maxSymbol (maxSymbol + 2)
    { bit := 4, remaining := Nat.pow 2 log + 1, threshold := Nat.pow 2 log, width := log + 1,
      probs := #[], previousZero := false }
  if r.remaining != 1 then throw .corrupt
  let used := (r.bit + 7) / 8
  if start + used > stop then throw .corrupt
  return (log, r.probs, start + used)

/-- The next place of the spread: one step on, passing over the places of the
less-than-one symbols, which are those above `high`. -/
def spreadStep (size step high : Nat) : Nat → Nat → Nat
  | 0, p => p
  | fuel + 1, p =>
    let q := (p + step) % size
    if q > high then spreadStep size step high fuel q else q

/-- The symbol of each state: less-than-one symbols take the last states, in symbol
order; the others are spread with the step `size/2 + size/8 + 3`, which is odd and so
visits every state. Returns the states and the place the spread ends at, which is the
first place when the probabilities share out the states exactly. -/
def spreadSymbols (log : Nat) (probs : Array Int) : Array Nat × Nat :=
  let size := Nat.pow 2 log
  let low := (List.range probs.size).filter fun s => probs[s]?.getD 0 == -1
  let high := size - 1 - low.length
  let placed := low.zipIdx.foldl (fun t (s, i) => t.setIfInBounds (size - 1 - i) s) (Array.replicate size 0)
  let step := size / 2 + size / 8 + 3
  (List.range probs.size).foldl (fun (t, p) s =>
    let n := (probs[s]?.getD 0).toNat
    (List.range n).foldl (fun (t, p) _ => (t.setIfInBounds p s, spreadStep size step high size p)) (t, p))
    (placed, 0)

/-- Builds the table of a distribution. -/
def FseTable.build (log : Nat) (probs : Array Int) : Unzstd FseTable := do
  let size := Nat.pow 2 log
  let lowCount := (probs.toList.filter (· == -1)).length
  if lowCount ≥ size then throw .corrupt
  let (symbols, last) := spreadSymbols log probs
  if last != 0 then throw .corrupt
  let next0 : Array Nat := probs.map fun p => if p == -1 then 1 else p.toNat
  let (cells, _) := symbols.foldl (fun (cells, next) s =>
      let n := next[s]?.getD 1
      let bits := log - Nat.log2 n
      ((cells.push ⟨s, bits, n * Nat.pow 2 bits - size⟩ : Array FseCell), next.setIfInBounds s (n + 1)))
    ((#[] : Array FseCell), next0)
  return ⟨log, cells⟩

/-- The table of one symbol, which reads no bits. -/
def FseTable.single (symbol : Nat) : FseTable := ⟨0, #[⟨symbol, 0, 0⟩]⟩

namespace FseTable

/-- The cell of a state. -/
def cell (t : FseTable) (state : Nat) : FseCell := t.cells[state]?.getD default

/-- The first state, read from the stream. -/
def first (t : FseTable) (r : BackBits) : Nat × BackBits := r.read t.log

/-- The state after `state`, read from the stream. -/
def next (t : FseTable) (state : Nat) (r : BackBits) : Nat × BackBits :=
  let c := t.cell state
  let (v, r) := r.read c.bits
  (c.base + v, r)

end FseTable

end DumpTopology.Codec
