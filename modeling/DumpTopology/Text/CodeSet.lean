/-!
# Sets of code points

A `CodeSet` holds Unicode scalar values as the ascending boundaries of its ranges:
`bounds = #[a₀, b₀, a₁, b₁, …]` holds every `c` with `aᵢ ≤ c < bᵢ`. A code point is in
the set exactly when an odd number of boundaries lie at or below it, so membership is
one lower-bound search. The tables of Unicode properties are values of this type.
-/
namespace DumpTopology.Text

/-- A set of code points given by the ascending boundaries of its ranges. -/
structure CodeSet where
  bounds : Array Nat
  deriving DecidableEq

namespace CodeSet

/-- `lo` plus the number of boundaries in positions `lo ≤ i < hi` that are at most `c`,
for ascending boundaries. Each step halves the interval. -/
def countAtMost (bounds : Array Nat) (c : Nat) (lo hi : Nat) : Nat :=
  if h : lo < hi then
    let mid := lo + (hi - lo) / 2
    if (bounds[mid]?.getD 0) ≤ c then countAtMost bounds c (mid + 1) hi
    else countAtMost bounds c lo mid
  else lo
termination_by hi - lo

/-- Membership of a code point. -/
def containsCode (s : CodeSet) (c : Nat) : Bool :=
  countAtMost s.bounds c 0 s.bounds.size % 2 == 1

/-- Membership of a character. -/
def contains (s : CodeSet) (c : Char) : Bool :=
  s.containsCode c.toNat

/-- The ranges of the set as inclusive pairs `(first, last)`. -/
def ranges (s : CodeSet) : List (Nat × Nat) :=
  go s.bounds.toList
where
  go : List Nat → List (Nat × Nat)
    | a :: b :: rest => (a, b - 1) :: go rest
    | [a] => [(a, 0x10FFFF)]
    | [] => []

end CodeSet

end DumpTopology.Text
