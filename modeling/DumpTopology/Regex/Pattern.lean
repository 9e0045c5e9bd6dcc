import DumpTopology.Regex.Search

/-!
# Compiled patterns

A `Pattern` is a pattern text with its automaton. `Pattern.captures` finds the leftmost
match of a text, the one the pattern prefers there, and reports the text each capture
group matched; a group that took no part in the match has none. `escapeText` writes a
text as a pattern that matches exactly that text.
-/
namespace DumpTopology.Regex

/-- A pattern and its automaton. -/
structure Pattern where
  source : String
  program : Program
  deriving Inhabited

/-- Compiles a pattern; an automaton over the size limit is refused. -/
def Pattern.compile (source : String) : Except Fault Pattern := do
  let parsed ← parsePattern source
  if parsed.node.fitsLimit then pure ⟨source, parsed.compile⟩
  else refuse (.tooLarge sizeLimit) 0 0

/-- The groups of one match. -/
structure Captures where
  text : Array Char
  slots : Slots
  names : List (String × Nat)

/-- The text matched by group `i`, if it took part in the match. -/
def Captures.get? (c : Captures) (i : Nat) : Option String :=
  match c.slots[2 * i]?, c.slots[2 * i + 1]? with
  | some (some a), some (some b) => some (String.ofList (c.text.extract a b).toList)
  | _, _ => none

/-- The text matched by the group of a name, if it took part in the match. -/
def Captures.named? (c : Captures) (name : String) : Option String :=
  (c.names.lookup name).bind c.get?

/-- The leftmost-first match of a pattern in a text, with its groups. -/
def Pattern.captures (re : Pattern) (text : String) : Option Captures :=
  let chars := text.toList.toArray
  (re.program.search chars).map fun slots => ⟨chars, slots, re.program.names⟩

/-- Whether a pattern matches somewhere in a text. -/
def Pattern.isMatch (re : Pattern) (text : String) : Bool :=
  (re.captures text).isSome

/-- A pattern that matches exactly the given text: every character with a meaning of its
own is escaped. -/
def escapeText (s : String) : String :=
  String.ofList (s.toList.flatMap fun c => if isMeta c then ['\\', c] else [c])

end DumpTopology.Regex
