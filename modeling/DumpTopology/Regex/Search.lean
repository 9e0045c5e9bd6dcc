import DumpTopology.Regex.Automaton

/-!
# Searching text

The search finds the leftmost position where the automaton matches, and there the match
that the preferences of its choices rank first. It tries the start positions in order
and explores depth first, preferred successor first, with an explicit stack of frames.

A pair of state and position is explored at most once in a whole search. That loses no
match: reaching the pair again either closes a loop that consumed nothing, which may not
go round again, or repeats a search from that pair that already failed, whatever
happened before it. So the work is bounded by the number of pairs, and that bound is the
fuel of the loop.

Capture slots hold character positions. A frame that restores a slot sits below the
exploration that changed it, so a failed branch leaves the slots as it found them.
-/
namespace DumpTopology.Regex

/-- Whether the character at position `i` is a word character. -/
def wordAt (unicode : Bool) (text : Array Char) (i : Nat) : Bool :=
  match text[i]? with
  | some c => if unicode then Text.isWordChar c else Text.isAsciiWordChar c
  | none => false

/-- Whether an assertion holds at position `pos`. -/
def Look.holds (l : Look) (text : Array Char) (pos : Nat) : Bool :=
  let before (u : Bool) := pos > 0 && wordAt u text (pos - 1)
  let after (u : Bool) := wordAt u text pos
  match l with
  | .textStart => pos == 0
  | .textEnd => pos == text.size
  | .lineStart false => pos == 0 || text[pos - 1]? == some '\n'
  | .lineStart true =>
    pos == 0 || text[pos - 1]? == some '\n' || (text[pos - 1]? == some '\r' && text[pos]? != some '\n')
  | .lineEnd false => pos == text.size || text[pos]? == some '\n'
  | .lineEnd true =>
    pos == text.size || text[pos]? == some '\r'
      || (text[pos]? == some '\n' && (pos == 0 || text[pos - 1]? != some '\r'))
  | .wordBoundary u => before u != after u
  | .notWordBoundary u => before u == after u
  | .wordStart u => !before u && after u
  | .wordEnd u => before u && !after u
  | .wordStartHalf u => !before u
  | .wordEndHalf u => !after u

/-- A frame of the search stack. -/
inductive Frame
  | explore (state pos : Nat)
  | restore (slot : Nat) (old : Option Nat)

/-- Capture slots: a position or nothing for each. -/
abbrev Slots := Array (Option Nat)

/-- The depth-first search from the frames on the stack. `width` is the number of
positions, so pair `(s, p)` has the mark `s * width + p`. -/
def explore (prog : Program) (text : Array Char) (width : Nat) :
    Nat → List Frame → Array Bool → Slots → Option Slots × Array Bool
  | 0, _, seen, _ => (none, seen)
  | _ + 1, [], seen, _ => (none, seen)
  | fuel + 1, .restore slot old :: rest, seen, slots =>
    explore prog text width fuel rest seen (slots.setIfInBounds slot old)
  | fuel + 1, .explore s pos :: rest, seen, slots =>
    let mark := s * width + pos
    if seen[mark]?.getD true then explore prog text width fuel rest seen slots
    else
      let seen := seen.setIfInBounds mark true
      match prog.steps[s]? with
      | some (.chars set next) =>
        match text[pos]? with
        | some c =>
          if set.contains c then explore prog text width fuel (.explore next (pos + 1) :: rest) seen slots
          else explore prog text width fuel rest seen slots
        | none => explore prog text width fuel rest seen slots
      | some (.split a b) =>
        explore prog text width fuel (.explore a pos :: .explore b pos :: rest) seen slots
      | some (.look l next) =>
        if l.holds text pos then explore prog text width fuel (.explore next pos :: rest) seen slots
        else explore prog text width fuel rest seen slots
      | some (.save slot next) =>
        explore prog text width fuel (.explore next pos :: .restore slot (slots[slot]?.join) :: rest)
          seen (slots.setIfInBounds slot (some pos))
      | some .accept => (some slots, seen)
      | none => explore prog text width fuel rest seen slots

/-- Tries the start positions from `start` on, keeping the marks between them. -/
def searchStarts (prog : Program) (text : Array Char) (budget : Nat) :
    Nat → Nat → Array Bool → Option Slots
  | 0, _, _ => none
  | n + 1, start, seen =>
    let width := text.size + 1
    match explore prog text width budget [.explore prog.start start]
        seen (Array.replicate prog.slots none) with
    | (some slots, _) => some slots
    | (none, seen) => searchStarts prog text budget n (start + 1) seen

/-- The capture slots of the leftmost-first match in a text, if there is one. -/
def Program.search (prog : Program) (text : Array Char) : Option Slots :=
  let width := text.size + 1
  let pairs := prog.steps.size * width
  searchStarts prog text (3 * pairs + 2) width 0 (Array.replicate pairs false)

end DumpTopology.Regex
