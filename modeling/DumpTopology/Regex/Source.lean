import DumpTopology.Regex.Syntax
import DumpTopology.Text.Blank

/-!
# Patterns as text under reading

A pattern is read as an array of characters with a cursor. This module holds the flags
that change how the rest of a pattern reads, the refusals with the span they point at,
and the moves of the cursor over blanks and comments, which only verbose mode skips.
-/
namespace DumpTopology.Regex

/-- Flags of a pattern: ignore case, multi-line anchors, `.` matches newline, swap
greed, Unicode, verbose (blanks and `#` comments ignored), carriage-return lines. -/
structure Flags where
  caseless : Bool := false
  multiLine : Bool := false
  dotAll : Bool := false
  swapGreed : Bool := false
  unicode : Bool := true
  verbose : Bool := false
  crlf : Bool := false
  deriving Inhabited, Repr

/-- Why a pattern is refused. -/
inductive FaultKind
  | classEscapeInvalid
  | classRangeInvalid
  | classRangeLiteral
  | classUnclosed
  | decimalEmpty
  | decimalInvalid
  | hexEmpty
  | hexInvalid
  | hexInvalidDigit
  | escapeEof
  | escapeUnrecognized
  | flagDanglingNegation
  | flagDuplicate
  | flagRepeatedNegation
  | flagEof
  | flagUnrecognized
  | nameDuplicate
  | nameEmpty
  | nameInvalid
  | nameEof
  | groupUnclosed
  | groupUnopened
  | nestLimit
  | repetitionCountInvalid
  | repetitionCountDecimalEmpty
  | repetitionCountUnclosed
  | repetitionMissing
  | wordBoundaryUnclosed
  | wordBoundaryUnrecognized
  | wordOrRepetitionEof
  | unicodeClassInvalid
  | backreference
  | lookAround
  | unicodeNotAllowed
  | invalidUtf8
  | propertyNotFound
  | tooLarge (limit : Nat)
  deriving Repr, BEq, Inhabited

/-- A refusal with the character span of the pattern it is about. -/
structure Fault where
  kind : FaultKind
  start : Nat
  stop : Nat
  deriving Repr, Inhabited

/-- Refuses at a span. -/
def refuse {α : Type} (kind : FaultKind) (start stop : Nat) : Except Fault α :=
  .error ⟨kind, start, stop⟩

/-- A pattern under reading, as characters. -/
abbrev Source := Array Char

/-- Skips a comment from `i`, through the end of its line. -/
def skipComment (p : Source) : Nat → Nat → Nat
  | 0, i => i
  | fuel + 1, i =>
    match p[i]? with
    | some '\n' => i + 1
    | some _ => skipComment p fuel (i + 1)
    | none => i

/-- In verbose mode, skips blanks and comments from `i`. -/
def skipSpace (p : Source) (verbose : Bool) (i : Nat) : Nat :=
  if verbose then go (p.size + 1) i else i
where
  go : Nat → Nat → Nat
    | 0, i => i
    | fuel + 1, i =>
      match p[i]? with
      | some c =>
        if Text.isBlank c then go fuel (i + 1)
        else if c == '#' then go fuel (skipComment p (p.size + 1) (i + 1))
        else i
      | none => i

/-- Skips blanks from `i`, whatever the mode. -/
def skipBlanks (p : Source) : Nat → Nat → Nat
  | 0, i => i
  | fuel + 1, i =>
    match p[i]? with
    | some c => if Text.isBlank c then skipBlanks p fuel (i + 1) else i
    | none => i

/-- Whether the characters of `s` stand at `i`. -/
def startsAt (p : Source) (i : Nat) (s : List Char) : Bool :=
  s.zipIdx.all fun (c, k) => p[i + k]? == some c

end DumpTopology.Regex
