import DumpTopology.Text.Fold

/-!
# Character classes

A class is a set of code points in canonical form: inclusive ranges, ascending, with a
gap between neighbours. Union, complement, intersection and the two differences of
bracketed classes are computed on that form. A class that ignores case is closed under
case equivalence: the Unicode simple folding, or the ASCII letters alone when a pattern
works on bytes.
-/
namespace DumpTopology.Regex

/-- The largest code point. -/
def maxCode : Nat := 0x10FFFF

/-- A set of code points as ascending, separated, inclusive ranges. -/
structure CharClass where
  ranges : List (Nat × Nat)
  deriving BEq, DecidableEq, Repr, Inhabited

namespace CharClass

/-- The class with no member. -/
def empty : CharClass := ⟨[]⟩

/-- The class of one code point. -/
def single (c : Nat) : CharClass := ⟨[(c, c)]⟩

/-- Joins a range onto canonical ranges kept last first; the range starts no earlier
than the last one. -/
def pushRange (acc : List (Nat × Nat)) (r : Nat × Nat) : List (Nat × Nat) :=
  match acc with
  | (lo, hi) :: rest => if r.1 ≤ hi + 1 then (lo, max hi r.2) :: rest else r :: acc
  | [] => [r]

/-- Inserts a range into ranges kept in descending order of their starts, before those with
the same start, so that reversing gives a stable ascending sort; ranges that come in
ascending order are each inserted in one step. -/
def insertDesc (r : Nat × Nat) : List (Nat × Nat) → List (Nat × Nat)
  | a :: rest => if r.1 < a.1 then a :: insertDesc r rest else r :: a :: rest
  | [] => [r]

/-- The canonical class of any list of ranges; a range with its ends reversed is empty. -/
def canonical (rs : List (Nat × Nat)) : CharClass :=
  let sorted := ((rs.filter fun r => r.1 ≤ r.2).foldl (fun acc r => insertDesc r acc) []).reverse
  ⟨(sorted.foldl pushRange []).reverse⟩

/-- The class of the ranges of a code-point table. -/
def ofCodeSet (s : Text.CodeSet) : CharClass := canonical s.ranges

/-- Members of either class. -/
def union (a b : CharClass) : CharClass := canonical (a.ranges ++ b.ranges)

/-- The code points up to `top` that are not in the class. -/
def complementUpTo (top : Nat) (a : CharClass) : CharClass :=
  ⟨go 0 a.ranges⟩
where
  go (next : Nat) : List (Nat × Nat) → List (Nat × Nat)
    | [] => if next ≤ top then [(next, top)] else []
    | (lo, hi) :: rest => (if next < lo then [(next, lo - 1)] else []) ++ go (hi + 1) rest

/-- The code points not in the class. -/
def complement (a : CharClass) : CharClass := complementUpTo maxCode a

/-- Members of both classes. -/
def inter (a b : CharClass) : CharClass := complement (union (complement a) (complement b))

/-- Members of the first class that are not in the second. -/
def diff (a b : CharClass) : CharClass := inter a (complement b)

/-- Members of exactly one of the classes. -/
def symmDiff (a b : CharClass) : CharClass := union (diff a b) (diff b a)

/-- Whether the class has no member. -/
def isEmpty (a : CharClass) : Bool := a.ranges.isEmpty

/-- Membership of a code point. -/
def contains (a : CharClass) (c : Nat) : Bool := a.ranges.any fun r => r.1 ≤ c && c ≤ r.2

/-- Whether every member is an ASCII code point. -/
def isAscii (a : CharClass) : Bool := a.ranges.all fun r => r.2 < 0x80

/-- The class closed under Unicode simple case equivalence. -/
def foldCase (a : CharClass) : CharClass :=
  let extra := a.ranges.flatMap fun r =>
    (Text.foldKeysIn r.1 r.2).flatMap fun k => (Text.foldOthers k).map fun o => (o, o)
  canonical (a.ranges ++ extra)

/-- The part of `[lo, hi]` inside the 26 letters from `base`, moved to start at `other`. -/
def shiftLetters (lo hi base other : Nat) : List (Nat × Nat) :=
  let l := max lo base
  let h := min hi (base + 25)
  if l ≤ h then [(l - base + other, h - base + other)] else []

/-- The class closed under ASCII case equivalence. -/
def foldAscii (a : CharClass) : CharClass :=
  canonical (a.ranges ++ a.ranges.flatMap fun r =>
    shiftLetters r.1 r.2 65 97 ++ shiftLetters r.1 r.2 97 65)

/-- The class as a code-point table, for fast membership. -/
def toCodeSet (a : CharClass) : Text.CodeSet :=
  ⟨(a.ranges.flatMap fun r => [r.1, r.2 + 1]).toArray⟩

end CharClass

end DumpTopology.Regex
