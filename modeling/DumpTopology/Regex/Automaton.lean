import DumpTopology.Regex.Parse

/-!
# Automata of patterns

A tree compiles to an automaton whose states consume one character of a class, split
between two successors in order of preference, test an assertion, record a position for
a capture group, or accept. Each node is compiled with its successor already known, so
a node adds its own states and never patches another's; a loop first places its choice
state and fills it in once the body is compiled.

Repetitions take these shapes, which fix both the preference between rounds and what an
empty round records:

* `x{n}` is `n` copies of `x`;
* `x{n,m}` is `n` copies followed by `m - n` nested optional copies, each offering the
  next one or the exit;
* `x{n,}` for `n ≥ 1` is `n` copies, the last of them looping back;
* `x*` is a loop around `x` when `x` cannot match the empty text, and `(x+)?` otherwise,
  so that an empty round of `x` is recorded once rather than abandoned.

Capture group `i` records its start in slot `2i` and its end in slot `2i + 1`; group 0
is the whole match.
-/
namespace DumpTopology.Regex

/-- A state of the automaton. -/
inductive Step
  /-- Consume one character of the set, then go on to `next`. -/
  | chars (set : Text.CodeSet) (next : Nat)
  /-- Try `first`; if that leads to no match, try `second`. -/
  | split (first second : Nat)
  | look (l : Look) (next : Nat)
  /-- Record the current position in a capture slot. -/
  | save (slot : Nat) (next : Nat)
  | accept
  deriving DecidableEq, Inhabited

/-- An automaton with its start state, capture slot count and group names. -/
structure Program where
  steps : Array Step
  start : Nat
  slots : Nat
  names : List (String × Nat)
  deriving Inhabited

/-- Building an automaton: the states placed so far. -/
abbrev Build := StateM (Array Step)

/-- Places a state and returns its index. -/
def emit (s : Step) : Build Nat := modifyGet fun a => (a.size, a.push s)

/-- Replaces a placed state. -/
def fill (i : Nat) (s : Step) : Build Unit := modify fun a => a.setIfInBounds i s

/-- The choice between another round and the exit, in order of preference. -/
def roundChoice (greedy : Bool) (round exit : Nat) : Step :=
  if greedy then .split round exit else .split exit round

/-- `n` copies of a body in sequence before `next`. -/
def copies (body : Nat → Build Nat) : Nat → Nat → Build Nat
  | 0, next => pure next
  | n + 1, next => do copies body n (← body next)

/-- `n` nested optional copies of a body before `exit`, each offering the next copy or
the exit. -/
def optionalCopies (greedy : Bool) (body : Nat → Build Nat) (exit : Nat) : Nat → Nat → Build Nat
  | 0, next => pure next
  | n + 1, next => do
    let entry ← body next
    optionalCopies greedy body exit n (← emit (roundChoice greedy entry exit))

/-- A repetition of a body between `lo` and `hi` rounds before `exit`; `bodyMin` is the
fewest characters the body takes. -/
def repetitionInto (greedy : Bool) (bodyMin : Option Nat) (lo : Nat) (hi : Option Nat)
    (body : Nat → Build Nat) (exit : Nat) : Build Nat := do
  match hi with
  | some h => copies body lo (← optionalCopies greedy body exit (h - lo) exit)
  | none =>
    let choice ← emit (.split exit exit)
    let entry ← body choice
    fill choice (roundChoice greedy entry exit)
    if lo == 0 then
      if (bodyMin.map (fun m => decide (m > 0))).getD false then
        return choice
      else emit (roundChoice greedy entry exit)
    else copies body (lo - 1) entry

mutual
/-- Compiles a node before the state `next` and returns its entry state. -/
def compileNode : Node → Nat → Build Nat
  | .empty, next => pure next
  | .chars cls, next => emit (.chars cls.toCodeSet next)
  | .look l, next => emit (.look l next)
  | .group i body, next => do
    let close ← emit (.save (2 * i + 1) next)
    let entry ← compileNode body close
    emit (.save (2 * i) entry)
  | .rep lo hi greedy body, next =>
    repetitionInto greedy body.minLen lo hi (fun k => compileNode body k) next
  | .seq items, next => compileSeq items next
  | .alt items, next => compileAlt items next

/-- Compiles a sequence, last item first. -/
def compileSeq : List Node → Nat → Build Nat
  | [], next => pure next
  | n :: rest, next => do compileNode n (← compileSeq rest next)

/-- Compiles alternatives as a chain of choices in their order. -/
def compileAlt : List Node → Nat → Build Nat
  | [], next => pure next
  | [n], next => compileNode n next
  | n :: rest, next => do
    let first ← compileNode n next
    let others ← compileAlt rest next
    emit (.split first others)
end

/-- The automaton of a read pattern: group 0 around the whole tree, then accept. -/
def Parsed.compile (parsed : Parsed) : Program :=
  let build : Build Nat := do
    let done ← emit .accept
    let close ← emit (.save 1 done)
    let entry ← compileNode parsed.node close
    emit (.save 0 entry)
  let (start, steps) := build.run #[]
  ⟨steps, start, 2 * (parsed.groups + 1), parsed.names⟩

/-- The automaton size limit, in bytes. -/
def sizeLimit : Nat := 10 * Nat.pow 2 20

/-- The cost of a class in automaton states: a class outside ASCII needs states for the
byte sequences of its ranges. -/
def classCost (cls : CharClass) : Nat :=
  if cls.isAscii then 1 else 3 * cls.ranges.length + 1

mutual
/-- An estimate of the automaton states of a node. -/
def Node.cost : Node → Nat
  | .empty => 0
  | .chars cls => classCost cls
  | .look _ => 1
  | .group _ body => body.cost + 2
  | .rep lo hi _ body => (body.cost + 1) * (max lo (hi.getD lo) + 1)
  | .seq items => seqCost items
  | .alt items => seqCost items + items.length

/-- The estimated states of several nodes. -/
def seqCost : List Node → Nat
  | [] => 0
  | n :: rest => n.cost + seqCost rest
end

/-- Whether the automaton of a tree stays within the size limit, taking 16 bytes for a
state. -/
def Node.fitsLimit (n : Node) : Bool := 16 * n.cost ≤ sizeLimit

end DumpTopology.Regex
