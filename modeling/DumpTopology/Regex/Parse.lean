import DumpTopology.Regex.Bracket

/-!
# Reading patterns

The pattern language: literals and escapes, `.`, the anchors `^` and `$`, classes in
brackets, groups `(…)`, named groups `(?P<name>…)` and `(?<name>…)`, groups without
capture `(?:…)`, flag groups `(?imsUuxR-imsUuxR)` and `(?flags:…)`, alternatives `|`,
and the repetitions `*`, `+`, `?`, `{n}`, `{n,}` and `{n,m}`, each lazy with a trailing
`?`. Look-around is refused.

Reading applies the flags as it goes, so the tree it returns needs no flags. A flag
group changes the flags up to the end of the enclosing group, across alternatives. Groups
are numbered from 1 in the order their openings appear. A group name starts with a
letter or `_` and goes on with letters, digits, `_`, `.`, `[` and `]`; a name may be
used once.

Groups still open wait on an explicit stack, so one loop reads the whole pattern, and
each turn of the loop consumes at least one character.
-/
namespace DumpTopology.Regex

/-- A piece of the sequence under reading: a node, or a flag group, which matches
nothing and cannot be repeated. -/
inductive Piece
  | node (n : Node)
  | setFlags
  deriving Inhabited

/-- A group that is open: what encloses it, and how it closes. -/
structure OpenGroup where
  /-- Pieces of the enclosing sequence, last first. -/
  pieces : List Piece
  /-- Finished alternatives of the enclosing group, last first. -/
  alts : List Node
  /-- The capture index, for a capturing group. -/
  capture : Option Nat
  /-- Flags to restore when the group closes. -/
  outer : Flags
  start : Nat
  deriving Inhabited

/-- The state of reading. -/
structure Reading where
  flags : Flags
  pieces : List Piece
  alts : List Node
  stack : List OpenGroup
  groups : Nat
  /-- Group names with their indices, last first. -/
  names : List (String × Nat)
  deriving Inhabited

/-- The node of a sequence of pieces given last first. -/
def branchNode (pieces : List Piece) : Node :=
  Node.sequence (pieces.reverse.filterMap fun
    | .node n => some n
    | .setFlags => none)

/-- The node of a group body: its alternatives, the last one still as pieces. -/
def bodyNode (alts : List Node) (pieces : List Piece) : Node :=
  Node.alternation (branchNode pieces :: alts).reverse

/-- What a group opening says. -/
inductive GroupHead
  | setFlags (f : Flags)
  | plain (f : Flags)
  | capture (name : Option String)
  deriving Inhabited

/-- Sets one flag by its letter. -/
def Flags.set (f : Flags) (c : Char) (on : Bool) : Flags :=
  if c == 'i' then { f with caseless := on }
  else if c == 'm' then { f with multiLine := on }
  else if c == 's' then { f with dotAll := on }
  else if c == 'U' then { f with swapGreed := on }
  else if c == 'u' then { f with unicode := on }
  else if c == 'x' then { f with verbose := on }
  else { f with crlf := on }

/-- Applies flag letters; letters after `-` (written `none`) clear their flag. -/
def Flags.apply (f : Flags) (items : List (Option Char)) : Flags :=
  (items.foldl (fun (acc : Flags × Bool) item =>
    match item with
    | none => (acc.1, true)
    | some c => (acc.1.set c (!acc.2), acc.2)) (f, false)).1

/-- Reads flag letters from `k` up to `:` or `)`; returns them with the position of
that closing character. -/
def flagItems (p : Source) :
    Nat → Nat → List (Option Char) → Option Nat → Except Fault (List (Option Char) × Nat)
  | 0, k, _, _ => refuse .flagEof k k
  | fuel + 1, k, items, lastNeg =>
    match p[k]? with
    | none => refuse .flagEof k k
    | some c =>
      if c == ':' || c == ')' then
        match lastNeg with
        | some n => refuse .flagDanglingNegation n (n + 1)
        | none => .ok (items.reverse, k)
      else if c == '-' then
        if items.contains none then refuse .flagRepeatedNegation k (k + 1)
        else if k + 1 ≥ p.size then refuse .flagEof (k + 1) (k + 1)
        else flagItems p fuel (k + 1) (none :: items) (some k)
      else if !"imsUuxR".toList.contains c then refuse .flagUnrecognized k (k + 1)
      else if items.contains (some c) then refuse .flagDuplicate k (k + 1)
      else if k + 1 ≥ p.size then refuse .flagEof (k + 1) (k + 1)
      else flagItems p fuel (k + 1) (some c :: items) none

/-- A character that may stand in a group name; the first is more restricted. -/
def isNameChar (c : Char) (first : Bool) : Bool :=
  if first then c == '_' || Text.isAlphabetic c
  else c == '_' || c == '.' || c == '[' || c == ']' || Text.isAlphanumeric c

/-- Reads a group name from `k` through its closing `>`. -/
def groupName (p : Source) (k : Nat) : Except Fault (String × Nat) :=
  if k ≥ p.size then refuse .nameEof k k
  else go (p.size + 1) k
where
  go : Nat → Nat → Except Fault (String × Nat)
    | 0, j => refuse .nameEof k j
    | fuel + 1, j =>
      match p[j]? with
      | none => refuse .nameEof k j
      | some '>' =>
        if j == k then refuse .nameEmpty k k
        else .ok (String.ofList (p.extract k j).toList, j + 1)
      | some c => if isNameChar c (j == k) then go fuel (j + 1) else refuse .nameInvalid j (j + 1)

/-- Reads a group opening at `i` (a `(`). -/
def groupHead (p : Source) (f : Flags) (i : Nat) : Except Fault (GroupHead × Nat) := do
  let j := skipSpace p f.verbose (i + 1)
  if startsAt p j "?=".toList || startsAt p j "?!".toList || startsAt p j "?<=".toList
      || startsAt p j "?<!".toList then
    refuse .lookAround i (j + 2)
  else if startsAt p j "?P<".toList then
    let (name, k) ← groupName p (j + 3)
    return (.capture (some name), k)
  else if startsAt p j "?<".toList then
    let (name, k) ← groupName p (j + 2)
    return (.capture (some name), k)
  else if p[j]? == some '?' then
    if j + 1 ≥ p.size then refuse .groupUnclosed i (i + 1)
    else
      let (items, k) ← flagItems p (p.size + 1) (j + 1) [] none
      if p[k]? == some ')' then
        if items.isEmpty then refuse .repetitionMissing (j) (k)
        else return (.setFlags (f.apply items), k + 1)
      else return (.plain (f.apply items), k + 1)
  else return (.capture none, j)

/-- Reads a decimal count from `i`, with blanks around it; `start` is the brace. -/
def decimal (p : Source) (verbose : Bool) (start i : Nat) : Except Fault (Nat × Nat) :=
  let i := skipBlanks p (p.size + 1) i
  let (digits, j) := go i [] (p.size + 1)
  let j := skipBlanks p (p.size + 1) j
  if digits.isEmpty then refuse .repetitionCountDecimalEmpty start j
  else
    let v := digits.reverse.foldl (fun acc d => acc * 10 + d) 0
    if v ≥ Nat.pow 2 32 then refuse .decimalInvalid i j else .ok (v, j)
where
  go (k : Nat) (acc : List Nat) : Nat → List Nat × Nat
    | 0 => (acc, k)
    | fuel + 1 =>
      match p[k]? with
      | some c =>
        if '0' ≤ c && c ≤ '9' then go (skipSpace p verbose (k + 1)) ((c.toNat - 48) :: acc) fuel
        else (acc, k)
      | none => (acc, k)

/-- Reads a counted repetition at `i` (a `{`): the least and most rounds, whether it is
greedy as written, and the position after it. -/
def countedRepetition (p : Source) (verbose : Bool) (i : Nat) :
    Except Fault ((Nat × Option Nat × Bool) × Nat) := do
  let j := skipSpace p verbose (i + 1)
  if j ≥ p.size then refuse .repetitionCountUnclosed i j
  else
    let (lo, k) ← decimal p verbose i j
    if k ≥ p.size then refuse .repetitionCountUnclosed i k
    else
      let (hi, k) ←
        if p[k]? == some ',' then do
          let k2 := skipSpace p verbose (k + 1)
          if k2 ≥ p.size then refuse .repetitionCountUnclosed i k2
          else if p[k2]? != some '}' then
            let (h, k3) ← decimal p verbose i k2
            pure (some h, k3)
          else pure (none, k2)
        else pure (some lo, k)
      if p[k]? != some '}' then refuse .repetitionCountUnclosed i k
      else
        let m := skipSpace p verbose (k + 1)
        let (greedy, m) := if p[m]? == some '?' then (false, m + 1) else (true, m)
        match hi with
        | some h => if lo > h then refuse .repetitionCountInvalid i m else return ((lo, hi, greedy), m)
        | none => return ((lo, hi, greedy), m)

/-- The node of a character under the flags. -/
def literalNode (f : Flags) (c : Char) (hexByte : Bool) (start stop : Nat) : Except Fault Node := do
  let code ← literalCode f c hexByte start stop
  let cls := CharClass.single code
  if !f.caseless then return .chars cls
  else if f.unicode then return .chars cls.foldCase
  else return .chars cls.foldAscii

/-- The node of `.` under the flags. -/
def dotNode (f : Flags) (start stop : Nat) : Except Fault Node :=
  if !f.unicode then refuse .invalidUtf8 start stop
  else if f.dotAll then .ok (.chars (.canonical [(0, maxCode)]))
  else if f.crlf then .ok (.chars (CharClass.canonical [(10, 10), (13, 13)]).complement)
  else .ok (.chars (CharClass.single 10).complement)

/-- The node of an assertion under the flags. -/
def anchorNode (f : Flags) : Anchor → Node
  | .textStart => .look .textStart
  | .textEnd => .look .textEnd
  | .boundary => .look (.wordBoundary f.unicode)
  | .notBoundary => .look (.notWordBoundary f.unicode)
  | .start => .look (.wordStart f.unicode)
  | .finish => .look (.wordEnd f.unicode)
  | .startHalf => .look (.wordStartHalf f.unicode)
  | .finishHalf => .look (.wordEndHalf f.unicode)

/-- The node of an escape under the flags. -/
def primNode (f : Flags) (prim : Prim) (start stop : Nat) : Except Fault Node :=
  match prim with
  | .lit c b => literalNode f c b start stop
  | .anchor a => .ok (anchorNode f a)
  | .perl k n => return .chars (← perlChecked f k n start stop)
  | .property name n => return .chars (← propertyChecked f name n start stop)

/-- Puts a node at the end of the current sequence. -/
def Reading.push (st : Reading) (n : Node) : Reading :=
  { st with pieces := .node n :: st.pieces }

/-- Repeats the last piece of the current sequence; a flag group or nothing cannot be
repeated. -/
def Reading.repeatLast (st : Reading) (lo : Nat) (hi : Option Nat) (greedy : Bool)
    (start stop : Nat) : Except Fault Reading :=
  match st.pieces with
  | .node n :: rest =>
    .ok { st with pieces := .node (Node.repetition lo hi (greedy != st.flags.swapGreed) n) :: rest }
  | _ => refuse .repetitionMissing start stop

/-- A pattern read: its tree, the number of capture groups and the group names with
their indices. -/
structure Parsed where
  node : Node
  groups : Nat
  names : List (String × Nat)
  deriving Inhabited

/-- The reading loop, from position `i`. -/
def readFrom (p : Source) : Nat → Nat → Reading → Except Fault Parsed
  | 0, i, _ => refuse .nestLimit i i
  | fuel + 1, i, st => do
    let i := skipSpace p st.flags.verbose i
    match p[i]? with
    | none =>
      match st.stack with
      | o :: _ => refuse .groupUnclosed o.start (o.start + 1)
      | [] => return ⟨bodyNode st.alts st.pieces, st.groups, st.names.reverse⟩
    | some '(' =>
      let (head, k) ← groupHead p st.flags i
      match head with
      | .setFlags f => readFrom p fuel k { st with flags := f, pieces := .setFlags :: st.pieces }
      | .plain f =>
        let opened : OpenGroup := ⟨st.pieces, st.alts, none, st.flags, i⟩
        readFrom p fuel k { st with flags := f, pieces := [], alts := [], stack := opened :: st.stack }
      | .capture name =>
        let index := st.groups + 1
        let names ← match name with
          | some n =>
            if st.names.any (·.1 == n) then refuse .nameDuplicate i k
            else pure ((n, index) :: st.names)
          | none => pure st.names
        let opened : OpenGroup := ⟨st.pieces, st.alts, some index, st.flags, i⟩
        readFrom p fuel k
          { st with pieces := [], alts := [], groups := index, names, stack := opened :: st.stack }
    | some ')' =>
      match st.stack with
      | [] => refuse .groupUnopened i (i + 1)
      | o :: rest =>
        let body := bodyNode st.alts st.pieces
        let node := match o.capture with
          | some index => Node.group index body
          | none => body
        readFrom p fuel (i + 1)
          { st with flags := o.outer, pieces := .node node :: o.pieces, alts := o.alts,
                    stack := rest }
    | some '|' =>
      readFrom p fuel (i + 1) { st with alts := branchNode st.pieces :: st.alts, pieces := [] }
    | some '[' =>
      let (cls, k) ← parseBracket p st.flags i
      readFrom p fuel k (st.push (.chars cls))
    | some '{' =>
      match st.pieces with
      | .node _ :: _ =>
        let ((lo, hi, greedy), k) ← countedRepetition p st.flags.verbose i
        readFrom p fuel k (← st.repeatLast lo hi greedy i k)
      | _ => refuse .repetitionMissing i i
    | some '\\' =>
      let (prim, k) ← parseEscape p st.flags.verbose i
      readFrom p fuel k (st.push (← primNode st.flags prim i k))
    | some '.' => readFrom p fuel (i + 1) (st.push (← dotNode st.flags i (i + 1)))
    | some '^' =>
      let l := if st.flags.multiLine then Look.lineStart st.flags.crlf else .textStart
      readFrom p fuel (i + 1) (st.push (.look l))
    | some '$' =>
      let l := if st.flags.multiLine then Look.lineEnd st.flags.crlf else .textEnd
      readFrom p fuel (i + 1) (st.push (.look l))
    | some c =>
      if c == '*' || c == '+' || c == '?' then
        let (greedy, k) := if p[i + 1]? == some '?' then (false, i + 2) else (true, i + 1)
        let lo := if c == '+' then 1 else 0
        let hi := if c == '?' then some 1 else none
        readFrom p fuel k (← st.repeatLast lo hi greedy i k)
      else readFrom p fuel (i + 1) (st.push (← literalNode st.flags c false i (i + 1)))

/-- Reads a whole pattern. -/
def parsePattern (pattern : String) : Except Fault Parsed :=
  let p := pattern.toList.toArray
  readFrom p (p.size + 1) 0 ⟨{}, [], [], [], 0, []⟩

end DumpTopology.Regex
