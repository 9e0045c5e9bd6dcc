import DumpTopology.Regex.Pattern
import DumpTopology.Text.Utf8
import DumpTopology.Fault

/-!
# Name wildcards

A wildcard matches whole names, byte by byte over their UTF-8 encoding:

* `?` is any one byte, so it never matches a character of two or more bytes;
* `*` is any run of bytes, `/` included;
* `[…]` is one byte of a class, negated by a leading `!` or `^`, with ranges `a-z`; a `]`
  first or a `-` first or last stands for itself, and a character outside ASCII stands
  for the bytes of its encoding;
* `{a,b}` is any of the alternatives, which may nest; empty alternatives match nothing;
* `\` makes the next character literal;
* `**` next to `/`, or at either end, spans whole path segments: `**/x` allows any
  leading directories, `x/**` any trailing part after a `/`, `x/**/y` one `/` or a
  `/…/` run between.

Ignoring case folds ASCII letters only. A wildcard compiles to the automaton of the
anchored pattern it stands for, with the byte values as characters.
-/
namespace DumpTopology

/-- The tokens of a wildcard. -/
inductive GlobToken
  | literal (c : Char)
  | any
  | zeroOrMore
  /-- `**/` at the start: nothing, or any run ending in `/`. -/
  | recursivePrefix
  /-- `/**` at the end: a `/` and any run after it. -/
  | recursiveSuffix
  /-- `/**/`: a `/`, or a run that starts and ends with `/`. -/
  | recursiveZeroOrMore
  | charClass (negated : Bool) (ranges : List (Char × Char))
  | alternates (branches : List (List GlobToken))
  deriving Inhabited

/-- Why a wildcard is refused. -/
inductive GlobFault
  | unclosedClass
  | invalidRange (lo hi : Char)
  | unopenedAlternates
  | unclosedAlternates
  | danglingEscape
  deriving BEq, Repr, Inhabited

/-- The text of a wildcard fault. -/
def GlobFault.message : GlobFault → String
  | .unclosedClass => "unclosed character class; missing ']'"
  | .invalidRange lo hi => s!"invalid range; '{lo}' > '{hi}'"
  | .unopenedAlternates => "unopened alternate group; missing '\x7b' (maybe escape '\x7d' with '[\x7d]'?)"
  | .unclosedAlternates => "unclosed alternate group; missing '\x7d' (maybe escape '\x7b' with '[\x7b]'?)"
  | .danglingEscape => "dangling '\\'"

/-- An alternates group under reading: the branch it will close into, and its finished
alternatives, last first. -/
structure GlobGroup where
  outer : List GlobToken
  done : List (List GlobToken)
  deriving Inhabited

/-- The state of reading a wildcard: the current branch (last token first), the open
groups, and the character read before the current one. -/
structure GlobReading where
  tokens : List GlobToken
  groups : List GlobGroup
  prev : Option Char
  deriving Inhabited

/-- Reads the body of a class after its `[`, from the characters `cs`; `first` holds
until one character is read. Returns the ranges, whether the last was a pending `-`,
and the rest of the input. -/
def readClass : List Char → List (Char × Char) → Bool → Bool →
    Except GlobFault (List (Char × Char) × List Char)
  | [], _, _, _ => .error .unclosedClass
  | c :: rest, ranges, first, inRange =>
    if c == ']' && !first then
      .ok ((if inRange then ('-', '-') :: ranges else ranges).reverse, rest)
    else if c == ']' then readClass rest ((']', ']') :: ranges) false false
    else if c == '-' then
      if first then readClass rest (('-', '-') :: ranges) false false
      else if inRange then
        match ranges with
        | (lo, _) :: more =>
          if '-' < lo then .error (.invalidRange lo '-')
          else readClass rest ((lo, '-') :: more) false false
        | [] => readClass rest ranges false false
      else readClass rest ranges false true
    else if inRange then
      match ranges with
      | (lo, _) :: more =>
        if c < lo then .error (.invalidRange lo c)
        else readClass rest ((lo, c) :: more) false false
      | [] => readClass rest ((c, c) :: ranges) false false
    else readClass rest ((c, c) :: ranges) false false

/-- Reads `**` whose first `*` was just read; `rest` starts after the second `*`. -/
def GlobReading.doubleStar (st : GlobReading) (rest : List Char) : GlobReading × List Char :=
  let twice := { st with tokens := .zeroOrMore :: .zeroOrMore :: st.tokens, prev := some '*' }
  if st.tokens.isEmpty then
    match rest with
    | [] => ({ st with tokens := [.recursivePrefix], prev := some '*' }, [])
    | '/' :: more => ({ st with tokens := .recursivePrefix :: st.tokens, prev := some '/' }, more)
    | _ => (twice, rest)
  else if st.prev != some '/' && (st.groups.isEmpty || (st.prev != some ',' && st.prev != some '{'))
  then (twice, rest)
  else
    let suffixAt : Option (Bool × List Char × Option Char) :=
      match rest with
      | [] => some (true, [], some '*')
      | '/' :: more => some (false, more, some '/')
      | c :: _ => if (c == ',' || c == '}') && !st.groups.isEmpty then some (true, rest, some '*') else none
    match suffixAt with
    | none => (twice, rest)
    | some (suffix, rest', prev') =>
      let tokens := match st.tokens with
        | .recursivePrefix :: more => .recursivePrefix :: more
        | .recursiveSuffix :: more => .recursiveSuffix :: more
        | _ :: more => (if suffix then .recursiveSuffix else .recursiveZeroOrMore) :: more
        | [] => []
      ({ st with tokens, prev := prev' }, rest')

/-- The reading loop over the characters of a wildcard. -/
def GlobReading.run : Nat → GlobReading → List Char → Except GlobFault (List GlobToken)
  | 0, _, _ => .error .unclosedClass
  | _ + 1, st, [] =>
    if st.groups.isEmpty then .ok st.tokens.reverse else .error .unclosedAlternates
  | fuel + 1, st, c :: rest =>
    let push (t : GlobToken) : GlobReading := { st with tokens := t :: st.tokens, prev := some c }
    match c with
    | '?' => GlobReading.run fuel (push .any) rest
    | '*' =>
      match rest with
      | '*' :: more =>
        let (st', rest') := st.doubleStar more
        GlobReading.run fuel st' rest'
      | _ => GlobReading.run fuel (push .zeroOrMore) rest
    | '[' =>
      let (negated, body) := match rest with
        | '!' :: more => (true, more)
        | '^' :: more => (true, more)
        | _ => (false, rest)
      match readClass body [] true false with
      | .ok (ranges, rest') =>
        GlobReading.run fuel { st with tokens := .charClass negated ranges :: st.tokens, prev := some ']' } rest'
      | .error e => .error e
    | '{' =>
      GlobReading.run fuel { tokens := [], groups := ⟨st.tokens, []⟩ :: st.groups, prev := some c } rest
    | '}' =>
      match st.groups with
      | [] => .error .unopenedAlternates
      | g :: more =>
        let branches := (st.tokens.reverse :: g.done).reverse
        GlobReading.run fuel { tokens := .alternates branches :: g.outer, groups := more, prev := some c } rest
    | ',' =>
      match st.groups with
      | [] => GlobReading.run fuel (push (.literal ',')) rest
      | g :: more =>
        GlobReading.run fuel
          { tokens := [], groups := { g with done := st.tokens.reverse :: g.done } :: more, prev := some c } rest
    | '\\' =>
      match rest with
      | [] => .error .danglingEscape
      | e :: more => GlobReading.run fuel { st with tokens := .literal e :: st.tokens, prev := some e } more
    | _ => GlobReading.run fuel (push (.literal c)) rest

/-- Reads a wildcard into tokens. -/
def parseGlob (glob : String) : Except GlobFault (List GlobToken) :=
  GlobReading.run (glob.length + 1) ⟨[], [], none⟩ glob.toList

namespace Wildcard

open Regex

/-- One byte. -/
def byteNode (caseless : Bool) (b : UInt8) : Node :=
  let cls := CharClass.single b.toNat
  .chars (if caseless then cls.foldAscii else cls)

/-- Any one byte. -/
def anyByte : Node := .chars (CharClass.canonical [(0, 255)])

/-- Any run of bytes. -/
def anyBytes : Node := .rep 0 none true anyByte

/-- The slash. -/
def slash : Node := .chars (.single 47)

/-- The byte ranges that a class of characters stands for: each end is spelled as its
bytes, and a range joins the last byte of its start to the first byte of its end. -/
def classBytes (ranges : List (Char × Char)) : List (Nat × Nat) :=
  ranges.flatMap fun (lo, hi) =>
    let a := (Text.encodeChar lo).map UInt8.toNat
    let b := (Text.encodeChar hi).map UInt8.toNat
    if lo == hi then a.map fun x => (x, x)
    else
      (a.dropLast.map fun x => (x, x)) ++ [(a.getLast?.getD 0, b.head?.getD 0)]
        ++ (b.drop 1).map fun x => (x, x)

mutual
/-- The pattern tree of a token; `none` when it writes no pattern at all, as an
alternates group whose alternatives are all empty. -/
def tokenNode (caseless : Bool) : GlobToken → Option Node
  | .literal c => some (.seq ((Text.encodeChar c).map (byteNode caseless)))
  | .any => some anyByte
  | .zeroOrMore => some anyBytes
  | .recursivePrefix => some (.alt [.rep 0 (some 1) true slash, .seq [anyBytes, slash]])
  | .recursiveSuffix => some (.seq [slash, anyBytes])
  | .recursiveZeroOrMore => some (.alt [slash, .seq [slash, anyBytes, slash]])
  | .charClass negated ranges =>
    let cls := CharClass.canonical (classBytes ranges)
    let cls := if caseless then cls.foldAscii else cls
    some (.chars (if negated then cls.complementUpTo 255 else cls))
  | .alternates branches =>
    match branchNodes caseless branches with
    | [] => none
    | parts => some (.alt parts)

/-- The trees of a token sequence; empty when it writes no pattern. -/
def tokensNodes (caseless : Bool) : List GlobToken → List Node
  | [] => []
  | t :: rest =>
    match tokenNode caseless t with
    | some n => n :: tokensNodes caseless rest
    | none => tokensNodes caseless rest

/-- The alternatives that write a pattern. -/
def branchNodes (caseless : Bool) : List (List GlobToken) → List Node
  | [] => []
  | b :: rest =>
    match tokensNodes caseless b with
    | [] => branchNodes caseless rest
    | ns => .seq ns :: branchNodes caseless rest
end

/-- The anchored tree of a whole wildcard. A wildcard that is only `**` matches
everything. -/
def wildcardNode (caseless : Bool) (tokens : List GlobToken) : Node :=
  let body := match tokens with
    | [.recursivePrefix] => [anyBytes]
    | _ => tokensNodes caseless tokens
  .seq ([.look .textStart] ++ body ++ [.look .textEnd])

end Wildcard

/-- A compiled name wildcard. -/
structure Wildcard where
  source : String
  program : Regex.Program
  deriving Inhabited

namespace Wildcard

/-- Compiles a wildcard; a malformed one is an invalid pattern. -/
def compile (glob : String) (caseless : Bool) : Except RuleFault Wildcard :=
  match parseGlob glob with
  | .ok tokens =>
    .ok ⟨glob, (Regex.Parsed.mk (wildcardNode caseless tokens) 0 []).compile⟩
  | .error e => .error (.invalidPattern glob e.message)

/-- Whether a name matches the wildcard as a whole. -/
def accepts (w : Wildcard) (name : String) : Bool :=
  let bytes := (Text.encodeUtf8 name).map fun b => Char.ofNat b.toNat
  (w.program.search bytes.toArray).isSome

end Wildcard

end DumpTopology
