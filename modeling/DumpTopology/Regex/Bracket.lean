import DumpTopology.Regex.Escape
import DumpTopology.Text.Word
import DumpTopology.Text.Letter

/-!
# Bracketed classes

A class in brackets is a union of items: characters, ranges, escapes, named ASCII
classes `[:name:]`, and nested classes. `&&`, `--` and `~~` combine the unions on their
two sides, left to right. A leading `^` negates the class; a `-` at either end and a `]`
right after the opening stand for themselves.

Each nested class is closed under case first when case is ignored, then negated. Without
the Unicode flag the class works on bytes: it may not name a character outside ASCII,
and a class that would match a byte outside ASCII is refused.
-/
namespace DumpTopology.Regex

/-- The ASCII word characters. -/
def asciiWord : CharClass := CharClass.canonical [(48, 57), (65, 90), (95, 95), (97, 122)]

/-- The ASCII blanks of `\s`. -/
def asciiSpace : CharClass := CharClass.canonical [(9, 13), (32, 32)]

/-- The named ASCII classes of `[[:name:]]`. -/
def asciiNamed : String → Option CharClass
  | "alnum" => some (.canonical [(48, 57), (65, 90), (97, 122)])
  | "alpha" => some (.canonical [(65, 90), (97, 122)])
  | "ascii" => some (.canonical [(0, 127)])
  | "blank" => some (.canonical [(9, 9), (32, 32)])
  | "cntrl" => some (.canonical [(0, 31), (127, 127)])
  | "digit" => some (.canonical [(48, 57)])
  | "graph" => some (.canonical [(33, 126)])
  | "lower" => some (.canonical [(97, 122)])
  | "print" => some (.canonical [(32, 126)])
  | "punct" => some (.canonical [(33, 47), (58, 64), (91, 96), (123, 126)])
  | "space" => some (.canonical [(9, 13), (32, 32)])
  | "upper" => some (.canonical [(65, 90)])
  | "word" => some asciiWord
  | "xdigit" => some (.canonical [(48, 57), (65, 70), (97, 102)])
  | _ => none

/-- The class of a Perl escape; Unicode tables with the Unicode flag, else ASCII. -/
def perlClass (unicode : Bool) : PerlKind → CharClass
  | .digit => if unicode then .ofCodeSet Text.decimalDigitSet else .canonical [(48, 57)]
  | .space => if unicode then .ofCodeSet Text.blankSet else asciiSpace
  | .word => if unicode then .ofCodeSet Text.wordSet else asciiWord

/-- Loose name matching of properties: case, blanks, `_` and `-` do not count. -/
def looseName (s : String) : String :=
  String.ofList (s.toList.filter (fun c => c != ' ' && c != '_' && c != '-')
    |>.map Char.toLower)

/-- The Unicode property classes known by name. -/
def propertyClass (name : String) : Option CharClass :=
  match looseName name with
  | "any" => some (.canonical [(0, maxCode)])
  | "ascii" => some (.canonical [(0, 127)])
  | "alphabetic" | "alpha" => some (.ofCodeSet Text.alphabeticSet)
  | "whitespace" | "wspace" | "space" => some (.ofCodeSet Text.blankSet)
  | "nd" | "decimalnumber" | "digit" => some (.ofCodeSet Text.decimalDigitSet)
  | "n" | "number" => some (.ofCodeSet Text.numericSet)
  | _ => none

/-- Folds case and negates a class as the flags say; without Unicode, a class that
reaches past ASCII is refused. -/
def settle (f : Flags) (negated : Bool) (cls : CharClass) (start stop : Nat) :
    Except Fault CharClass :=
  if f.unicode then
    let c := if f.caseless then cls.foldCase else cls
    .ok (if negated then c.complement else c)
  else
    let c := if f.caseless then cls.foldAscii else cls
    let c := if negated then c.complementUpTo 0xFF else c
    if c.isAscii then .ok c else refuse .invalidUtf8 start stop

/-- A character of a pattern; without Unicode it must be ASCII. -/
def literalCode (f : Flags) (c : Char) (hexByte : Bool) (start stop : Nat) : Except Fault Nat :=
  if f.unicode || c.toNat < 0x80 then .ok c.toNat
  else if hexByte then refuse .invalidUtf8 start stop
  else refuse .unicodeNotAllowed start stop

/-- The class of a Perl escape under the flags. -/
def perlChecked (f : Flags) (k : PerlKind) (negated : Bool) (start stop : Nat) :
    Except Fault CharClass :=
  let c := perlClass f.unicode k
  if f.unicode then .ok (if negated then c.complement else c)
  else
    let c := if negated then c.complementUpTo 0xFF else c
    if c.isAscii then .ok c else refuse .invalidUtf8 start stop

/-- The class of a Unicode property under the flags. -/
def propertyChecked (f : Flags) (name : String) (negated : Bool) (start stop : Nat) :
    Except Fault CharClass :=
  if !f.unicode then refuse .unicodeNotAllowed start stop
  else
    match propertyClass name with
    | some c => settle f negated c start stop
    | none => refuse .propertyNotFound start stop

/-- Set operations between the parts of a bracketed class. -/
inductive ClassOp
  | inter
  | diff
  | symm
  deriving Repr, BEq, Inhabited

/-- Applies a class operation. -/
def ClassOp.apply : ClassOp → CharClass → CharClass → CharClass
  | .inter, a, b => a.inter b
  | .diff, a, b => a.diff b
  | .symm, a, b => a.symmDiff b

/-- The operation written at `i`, if any. -/
def classOpAt (p : Source) (i : Nat) : Option ClassOp :=
  match p[i]?, p[i + 1]? with
  | some '&', some '&' => some .inter
  | some '-', some '-' => some .diff
  | some '~', some '~' => some .symm
  | _, _ => none

/-- Reads `[:name:]` at `i` (a `[` inside a class), or nothing. -/
def asciiClassAt (p : Source) (i : Nat) : Option (CharClass × Bool × Nat) :=
  if p[i + 1]? != some ':' then none
  else
    let (negated, j) := if p[i + 2]? == some '^' then (true, i + 3) else (false, i + 2)
    let k := upToColon j (p.size + 1)
    if p[k]? == some ':' && p[k + 1]? == some ']' then
      match asciiNamed (String.ofList (p.extract j k).toList) with
      | some cls => some (cls, negated, k + 2)
      | none => none
    else none
where
  upToColon (j : Nat) : Nat → Nat
    | 0 => j
    | fuel + 1 =>
      match p[j]? with
      | some ':' => j
      | some _ => upToColon (j + 1) fuel
      | none => j

/-- A class under reading: the left side and operation so far, and the current union. -/
structure ClassFrame where
  lhs : Option (CharClass × ClassOp)
  items : CharClass
  negated : Bool
  start : Nat
  deriving Inhabited

/-- The class read so far in a frame, before case folding and negation. -/
def ClassFrame.value (fr : ClassFrame) : CharClass :=
  match fr.lhs with
  | none => fr.items
  | some (l, op) => op.apply l fr.items

/-- Adds a class to the current union of a frame. -/
def ClassFrame.add (fr : ClassFrame) (c : CharClass) : ClassFrame :=
  { fr with items := fr.items.union c }

/-- Reads one item of a class (a literal or an escape) at `i`. -/
def classPrim (p : Source) (verbose : Bool) (i : Nat) : Except Fault (Prim × Nat) :=
  match p[i]? with
  | some '\\' => parseEscape p verbose i
  | some c => .ok (.lit c false, i + 1)
  | none => refuse .classUnclosed i i

/-- The next character after `i` that counts, skipping blanks in verbose mode. -/
def peekSpace (p : Source) (verbose : Bool) (i : Nat) : Option Char :=
  p[skipSpace p verbose (i + 1)]?

/-- The class of one read item. -/
def primClass (f : Flags) (prim : Prim) (start stop : Nat) : Except Fault CharClass :=
  match prim with
  | .lit c b => return .single (← literalCode f c b start stop)
  | .perl k n => perlChecked f k n start stop
  | .property name n => propertyChecked f name n start stop
  | .anchor _ => refuse .classEscapeInvalid start stop

/-- Reads an item or a range of a class at `i`. -/
def classRange (p : Source) (f : Flags) (i : Nat) : Except Fault (CharClass × Nat) := do
  let (first, j) ← classPrim p f.verbose i
  let j := skipSpace p f.verbose j
  if j ≥ p.size then refuse .classUnclosed i j
  else if p[j]? != some '-' || peekSpace p f.verbose j == some ']'
      || peekSpace p f.verbose j == some '-' then
    return (← primClass f first i j, j)
  else
    let k := skipSpace p f.verbose (j + 1)
    if k ≥ p.size then refuse .classUnclosed i k
    else
      let (second, l) ← classPrim p f.verbose k
      match first, second with
      | .lit a ab, .lit b bb =>
        if b < a then refuse .classRangeInvalid i l
        else
          let lo ← literalCode f a ab i j
          let hi ← literalCode f b bb k l
          return (.canonical [(lo, hi)], l)
      | .lit _ _, _ => refuse .classRangeLiteral k l
      | _, _ => refuse .classRangeLiteral i j

/-- Leading `-` of a class, each standing for itself. -/
def leadingDashes (p : Source) (verbose : Bool) : Nat → Nat → Bool → Nat × Bool
  | 0, j, seen => (j, seen)
  | fuel + 1, j, seen =>
    if p[j]? == some '-' then leadingDashes p verbose fuel (skipSpace p verbose (j + 1)) true
    else (j, seen)

/-- Reads the opening of a class at `i` (a `[`): negation, then a leading `-` or `]`
taken literally. -/
def classOpen (p : Source) (verbose : Bool) (i : Nat) : Except Fault (ClassFrame × Nat) :=
  let j := skipSpace p verbose (i + 1)
  if j ≥ p.size then refuse .classUnclosed i j
  else
    let (negated, j) :=
      if p[j]? == some '^' then (true, skipSpace p verbose (j + 1)) else (false, j)
    if j ≥ p.size then refuse .classUnclosed i j
    else
      let (j, dashes) := leadingDashes p verbose (p.size + 1) j false
      let items := if dashes then CharClass.single 45 else .empty
      if j ≥ p.size then refuse .classUnclosed i j
      else if !dashes && p[j]? == some ']' then
        let k := skipSpace p verbose (j + 1)
        if k ≥ p.size then refuse .classUnclosed i k
        else .ok (⟨none, .single 93, negated, i⟩, k)
      else .ok (⟨none, items, negated, i⟩, j)

/-- Reads a bracketed class at `i` (a `[`), with its nested classes. -/
def parseBracket (p : Source) (f : Flags) (i : Nat) : Except Fault (CharClass × Nat) := do
  let (fr, j) ← classOpen p f.verbose i
  loop (p.size + 2) j [] fr
where
  loop : Nat → Nat → List ClassFrame → ClassFrame → Except Fault (CharClass × Nat)
    | 0, j, _, fr => refuse .classUnclosed fr.start j
    | fuel + 1, j, stack, fr => do
      let j := skipSpace p f.verbose j
      match p[j]? with
      | none => refuse .classUnclosed fr.start j
      | some '[' =>
        match asciiClassAt p j with
        | some (cls, neg, k) => loop fuel k stack (fr.add (← settle f neg cls j k))
        | none =>
          let (inner, k) ← classOpen p f.verbose j
          loop fuel k (fr :: stack) inner
      | some ']' =>
        let cls ← settle f fr.negated fr.value fr.start (j + 1)
        match stack with
        | [] => return (cls, j + 1)
        | outer :: rest => loop fuel (j + 1) rest (outer.add cls)
      | some _ =>
        match classOpAt p j with
        | some op => loop fuel (j + 2) stack { fr with lhs := some (fr.value, op), items := .empty }
        | none =>
          let (cls, k) ← classRange p f j
          loop fuel k stack (fr.add cls)

end DumpTopology.Regex
