import DumpTopology.Regex.Source

/-!
# Escapes

A backslash starts an escape: a character written in hexadecimal (`\x7F`, `\x{…}`,
`\u…`, `\U…`), a control character (`\n`, `\t`, …), a punctuation character standing
for itself, a Perl class (`\d`, `\s`, `\w` and their negations), a Unicode property
(`\p…`, `\P…`) or an assertion (`\A`, `\z`, `\b`, `\B`, `\<`, `\>`, `\b{start}` …).
Digits would be back-references and are refused; so is a letter with no meaning.
-/
namespace DumpTopology.Regex

/-- The Perl classes `\d`, `\s` and `\w`. -/
inductive PerlKind
  | digit
  | space
  | word
  deriving Repr, BEq, Inhabited

/-- Assertions written with a backslash. -/
inductive Anchor
  | textStart
  | textEnd
  | boundary
  | notBoundary
  | start
  | finish
  | startHalf
  | finishHalf
  deriving Repr, BEq, Inhabited

/-- What an escape or a plain character stands for. -/
inductive Prim
  /-- A character; `hexByte` when written `\xNN`, which names a byte without Unicode. -/
  | lit (c : Char) (hexByte : Bool)
  | anchor (a : Anchor)
  | perl (k : PerlKind) (negated : Bool)
  /-- A Unicode property class, by name. -/
  | property (name : String) (negated : Bool)
  deriving Repr, Inhabited

/-- The value of a hexadecimal digit. -/
def hexValue (c : Char) : Option Nat :=
  if '0' ≤ c && c ≤ '9' then some (c.toNat - 48)
  else if 'a' ≤ c && c ≤ 'f' then some (c.toNat - 87)
  else if 'A' ≤ c && c ≤ 'F' then some (c.toNat - 55)
  else none

/-- A code point that is a character. -/
def scalar? (n : Nat) : Option Char :=
  if n < 0xD800 || (0xDFFF < n && n ≤ 0x10FFFF) then some (Char.ofNat n) else none

/-- Reads `count` hexadecimal digits from `i` (blanks between them in verbose mode);
`start` is where the escape began. -/
def fixedHex (p : Source) (verbose : Bool) (start : Nat) :
    Nat → Nat → Nat → Except Fault (Nat × Nat)
  | 0, i, acc => .ok (acc, skipSpace p verbose i)
  | n + 1, i, acc =>
    match p[i]? with
    | none => refuse .escapeEof start i
    | some c =>
      match hexValue c with
      | none => refuse .hexInvalidDigit i (i + 1)
      | some v =>
        let next := if n == 0 then i + 1 else skipSpace p verbose (i + 1)
        if n != 0 && next ≥ p.size then refuse .escapeEof start next
        else fixedHex p verbose start n next (acc * 16 + v)

/-- Reads hexadecimal digits up to a closing brace, from just after the opening one. -/
def bracedHex (p : Source) (verbose : Bool) (start : Nat) :
    Nat → Nat → List Nat → Except Fault (Nat × Nat)
  | 0, i, _ => refuse .escapeEof start i
  | fuel + 1, i, digits =>
    match p[i]? with
    | none => refuse .escapeEof start i
    | some '}' =>
      if digits.isEmpty then refuse .hexEmpty start (i + 1)
      else
        let v := digits.reverse.foldl (fun acc d => acc * 16 + d) 0
        if digits.length > 8 then refuse .hexInvalid start (i + 1)
        else .ok (v, i + 1)
    | some c =>
      match hexValue c with
      | none => refuse .hexInvalidDigit i (i + 1)
      | some v => bracedHex p verbose start fuel (skipSpace p verbose (i + 1)) (v :: digits)

/-- Reads a hexadecimal escape; `i` is at the letter `x`, `u` or `U`. -/
def parseHex (p : Source) (verbose : Bool) (start i : Nat) : Except Fault (Prim × Nat) := do
  let letter := p[i]?.getD 'x'
  let digits := if letter == 'x' then 2 else if letter == 'u' then 4 else 8
  let j := skipSpace p verbose (i + 1)
  if j ≥ p.size then refuse .escapeEof start j
  else if p[j]? == some '{' then
    let (v, next) ← bracedHex p verbose start (p.size + 1) (skipSpace p verbose (j + 1)) []
    match scalar? v with
    | some c => pure (.lit c false, next)
    | none => refuse .hexInvalid start next
  else
    let (v, next) ← fixedHex p verbose start digits j 0
    match scalar? v with
    | some c => pure (.lit c (letter == 'x'), next)
    | none => refuse .hexInvalid start next

/-- Characters that have a meaning of their own in patterns. -/
def isMeta (c : Char) : Bool :=
  "\\.+*?()|[]{}^$#&-~".toList.contains c

/-- Characters that may be escaped to stand for themselves. -/
def isEscapable (c : Char) : Bool :=
  isMeta c || (c.toNat < 0x80 && !c.isAlphanum && c != '<' && c != '>')

/-- Reads the special word boundary after `\b` when a brace follows; `none` leaves the
brace to be read as a repetition. `i` is at the brace. -/
def specialBoundary (p : Source) (verbose : Bool) (start i : Nat) :
    Except Fault (Option (Anchor × Nat)) := do
  let valid := fun (c : Char) => c.isAlpha || c == '-'
  let j := skipSpace p verbose (i + 1)
  match p[j]? with
  | none => refuse .wordOrRepetitionEof start j
  | some c =>
    if !valid c then pure none
    else
      let (name, k) := collect j [] (p.size + 1)
      if p[k]? != some '}' then refuse .wordBoundaryUnclosed i k
      else
        match String.ofList name.reverse with
        | "start" => pure (some (.start, k + 1))
        | "end" => pure (some (.finish, k + 1))
        | "start-half" => pure (some (.startHalf, k + 1))
        | "end-half" => pure (some (.finishHalf, k + 1))
        | _ => refuse .wordBoundaryUnrecognized j k
where
  collect (j : Nat) (acc : List Char) : Nat → List Char × Nat
    | 0 => (acc, j)
    | fuel + 1 =>
      match p[j]? with
      | some c =>
        if c.isAlpha || c == '-' then collect (skipSpace p verbose (j + 1)) (c :: acc) fuel
        else (acc, j)
      | none => (acc, j)

/-- Reads the name of a Unicode property after `\p` or `\P`; `i` is after the letter. -/
def parseProperty (p : Source) (verbose : Bool) (start i : Nat) (negated : Bool) :
    Except Fault (Prim × Nat) :=
  let j := skipSpace p verbose i
  match p[j]? with
  | none => refuse .escapeEof start j
  | some '{' =>
    let (body, k) := upToBrace (j + 1) [] (p.size + 1)
    if p[k]? != some '}' then refuse .unicodeClassInvalid start k
    else
      let text := String.ofList body.reverse
      let (neg, text) :=
        if text.startsWith "^" then (!negated, String.ofList (text.toList.drop 1)) else (negated, text)
      .ok (.property text neg, k + 1)
  | some c => .ok (.property (String.singleton c) negated, j + 1)
where
  upToBrace (j : Nat) (acc : List Char) : Nat → List Char × Nat
    | 0 => (acc, j)
    | fuel + 1 =>
      match p[j]? with
      | some '}' => (acc, j)
      | some c => upToBrace (j + 1) (c :: acc) fuel
      | none => (acc, j)

/-- Reads an escape; `i` is at the backslash. -/
def parseEscape (p : Source) (verbose : Bool) (i : Nat) : Except Fault (Prim × Nat) :=
  match p[i + 1]? with
  | none => refuse .escapeEof i (i + 1)
  | some c =>
    let j := i + 2
    if '0' ≤ c && c ≤ '9' then refuse .backreference i j
    else if c == 'x' || c == 'u' || c == 'U' then parseHex p verbose i (i + 1)
    else if c == 'p' then parseProperty p verbose i j false
    else if c == 'P' then parseProperty p verbose i j true
    else if c == 'd' then .ok (.perl .digit false, j)
    else if c == 'D' then .ok (.perl .digit true, j)
    else if c == 's' then .ok (.perl .space false, j)
    else if c == 'S' then .ok (.perl .space true, j)
    else if c == 'w' then .ok (.perl .word false, j)
    else if c == 'W' then .ok (.perl .word true, j)
    else if isEscapable c then .ok (.lit c false, j)
    else if c == 'a' then .ok (.lit '\x07' false, j)
    else if c == 'f' then .ok (.lit '\x0C' false, j)
    else if c == 't' then .ok (.lit '\t' false, j)
    else if c == 'n' then .ok (.lit '\n' false, j)
    else if c == 'r' then .ok (.lit '\r' false, j)
    else if c == 'v' then .ok (.lit '\x0B' false, j)
    else if c == 'A' then .ok (.anchor .textStart, j)
    else if c == 'z' then .ok (.anchor .textEnd, j)
    else if c == 'B' then .ok (.anchor .notBoundary, j)
    else if c == '<' then .ok (.anchor .start, j)
    else if c == '>' then .ok (.anchor .finish, j)
    else if c == 'b' then
      if p[j]? == some '{' then
        match specialBoundary p verbose i j with
        | .ok (some (a, k)) => .ok (.anchor a, k)
        | .ok none => .ok (.anchor .boundary, j)
        | .error e => .error e
      else .ok (.anchor .boundary, j)
    else refuse .escapeUnrecognized i j

end DumpTopology.Regex
