import DumpTopology.Regex.Class

/-!
# Pattern trees

A parsed pattern is a tree of nodes: character sets, zero-width assertions, repetitions,
capture groups, sequences and ordered alternatives. Flags such as case insensitivity
are already applied, so a tree says exactly which texts it matches and with which
priority.

A repetition whose body can only match the empty text is capped to at most one round, a
repetition of zero rounds is the empty pattern, and one of exactly one round is its
body. These rules keep the automaton of a tree small and fix how empty rounds behave.
-/
namespace DumpTopology.Regex

/-- Zero-width assertions. A `unicode` word test uses the Unicode word characters,
otherwise the ASCII ones. -/
inductive Look
  | textStart
  | textEnd
  /-- Start of a line; with `crlf`, a carriage return also ends a line. -/
  | lineStart (crlf : Bool)
  | lineEnd (crlf : Bool)
  | wordBoundary (unicode : Bool)
  | notWordBoundary (unicode : Bool)
  | wordStart (unicode : Bool)
  | wordEnd (unicode : Bool)
  | wordStartHalf (unicode : Bool)
  | wordEndHalf (unicode : Bool)
  deriving BEq, DecidableEq, Repr, Inhabited

/-- A pattern tree. -/
inductive Node
  /-- Matches the empty text. -/
  | empty
  /-- One character of the class. -/
  | chars (cls : CharClass)
  | look (l : Look)
  /-- Between `min` and `max` rounds of the body (no upper bound for `none`); a greedy
  repetition prefers more rounds. -/
  | rep (min : Nat) (max : Option Nat) (greedy : Bool) (body : Node)
  /-- The body, recording where it matched as capture group `index`. -/
  | group (index : Nat) (body : Node)
  | seq (items : List Node)
  /-- The first alternative that leads to a match wins. -/
  | alt (items : List Node)
  deriving Repr, Inhabited

namespace Node

mutual
/-- Whether two trees are the same, node by node. -/
def beq : Node → Node → Bool
  | .empty, .empty => true
  | .chars a, .chars b => decide (a = b)
  | .look a, .look b => decide (a = b)
  | .rep lo hi greedy body, .rep lo' hi' greedy' body' =>
    decide (lo = lo') && decide (hi = hi') && decide (greedy = greedy') && beq body body'
  | .group i body, .group i' body' => decide (i = i') && beq body body'
  | .seq items, .seq items' => beqList items items'
  | .alt items, .alt items' => beqList items items'
  | _, _ => false

/-- Whether two lists of trees are the same, tree by tree. -/
def beqList : List Node → List Node → Bool
  | [], [] => true
  | n :: rest, n' :: rest' => beq n n' && beqList rest rest'
  | _, _ => false
end

mutual
theorem beq_iff : ∀ a b : Node, beq a b = true ↔ a = b
  | .empty, b | .chars _, b | .look _, b => by cases b <;> simp [beq]
  | .rep _ _ _ body, b => by
    cases b <;> simp [beq, beq_iff body, and_assoc]
  | .group _ body, b => by
    cases b <;> simp [beq, beq_iff body]
  | .seq items, b | .alt items, b => by
    cases b <;> simp [beq, beqList_iff items]

theorem beqList_iff : ∀ a b : List Node, beqList a b = true ↔ a = b
  | [], b => by cases b <;> simp [beqList]
  | n :: rest, b => by
    cases b <;> simp [beqList, beq_iff n, beqList_iff rest]
end

instance : DecidableEq Node := fun a b => decidable_of_iff _ (beq_iff a b)

mutual
/-- The fewest characters a match takes, or `none` when the node matches nothing. -/
def minLen : Node → Option Nat
  | .empty => some 0
  | .chars cls => if cls.isEmpty then none else some 1
  | .look _ => some 0
  | .rep lo _ _ body => (minLen body).map (· * lo)
  | .group _ body => minLen body
  | .seq items => seqMinLen items
  | .alt items => altMinLen items

/-- The fewest characters of a sequence. -/
def seqMinLen : List Node → Option Nat
  | [] => some 0
  | n :: rest =>
    match minLen n, seqMinLen rest with
    | some a, some b => some (a + b)
    | _, _ => none

/-- The fewest characters of alternatives; `none` if any alternative matches nothing. -/
def altMinLen : List Node → Option Nat
  | [] => none
  | [n] => minLen n
  | n :: rest =>
    match minLen n, altMinLen rest with
    | some a, some b => some (min a b)
    | _, _ => none
end

mutual
/-- The most characters a match takes, or `none` when unbounded or matching nothing. -/
def maxLen : Node → Option Nat
  | .empty => some 0
  | .chars cls => if cls.isEmpty then none else some 1
  | .look _ => some 0
  | .rep _ hi _ body =>
    match hi, maxLen body with
    | some h, some m => some (m * h)
    | _, _ => none
  | .group _ body => maxLen body
  | .seq items => seqMaxLen items
  | .alt items => altMaxLen items

/-- The most characters of a sequence. -/
def seqMaxLen : List Node → Option Nat
  | [] => some 0
  | n :: rest =>
    match maxLen n, seqMaxLen rest with
    | some a, some b => some (a + b)
    | _, _ => none

/-- The most characters of alternatives. -/
def altMaxLen : List Node → Option Nat
  | [] => none
  | [n] => maxLen n
  | n :: rest =>
    match maxLen n, altMaxLen rest with
    | some a, some b => some (max a b)
    | _, _ => none
end

/-- A repetition, simplified: a body that only matches the empty text gets at most one
round, zero rounds are the empty pattern and exactly one round is the body. -/
def repetition (lo : Nat) (hi : Option Nat) (greedy : Bool) (body : Node) : Node :=
  let (lo, hi) :=
    if body.maxLen == some 0 then (min lo 1, some (min (hi.getD 1) 1)) else (lo, hi)
  if lo == 0 && hi == some 0 then .empty
  else if lo == 1 && hi == some 1 then body
  else .rep lo hi greedy body

/-- Alternatives; one alternative is itself. -/
def alternation : List Node → Node
  | [n] => n
  | ns => .alt ns

/-- A sequence; one item is itself and none is the empty pattern. -/
def sequence : List Node → Node
  | [] => .empty
  | [n] => n
  | ns => .seq ns

end Node

end DumpTopology.Regex
