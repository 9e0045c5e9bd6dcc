import DumpTopology.Doc

/-!
# Reading TOML text

The lexical layer of TOML 1.0: a reader over the characters of a document, and the
pieces it reads, keys and scalar values.

Strings are basic (with escapes), literal, or either of these over several lines, where a
newline right after the opening quotes is dropped, a backslash at the end of a line in a
basic string swallows the blanks and newlines after it, and up to two quotes may stand
just before the closing ones. Control characters other than tab are refused in strings
and comments.

Integers are decimal, without leading zeros, or hexadecimal, octal or binary with a
prefix; underscores stand only between digits; a value must fit 64 signed bits. Floats
have a fraction, an exponent or both, or are `inf` or `nan`. Date-times are offset or
local date-times, local dates and local times, with fields in range.
-/
namespace DumpTopology.Toml

/-- A fault at a character position. -/
structure Fault where
  pos : Nat
  message : String
  deriving Repr, Inhabited

/-- Reading a document: its characters, and the position of the next one. -/
abbrev Reader := ReaderT (Array Char) (StateT Nat (Except Fault))

/-- The next character. -/
def peek : Reader (Option Char) := do return (← read)[← get]?

/-- The character `k` places ahead. -/
def peekAt (k : Nat) : Reader (Option Char) := do return (← read)[(← get) + k]?

/-- Moves past one character. -/
def bump : Reader Unit := modify (· + 1)

/-- Fails at the current position. -/
def fail {α : Type} (message : String) : Reader α := do throw ⟨← get, message⟩

/-- The characters from the current position on. -/
def rest : Reader (List Char) := do
  let input ← read
  return (input.extract (← get) input.size).toList

/-- Moves past the characters that satisfy `p`. -/
def skipWhile (p : Char → Bool) : Reader Unit := do
  let n := ((← rest).takeWhile p).length
  modify (· + n)

/-- Whether a character is a blank: space or tab. -/
def isBlank (c : Char) : Bool := c == ' ' || c == '\t'

/-- Moves past blanks. -/
def skipBlanks : Reader Unit := skipWhile isBlank

/-- Whether a character is a control character that text may not hold. -/
def isForbiddenControl (c : Char) : Bool := (c.toNat < 32 && c != '\t') || c.toNat == 127

/-- Whether the text ahead starts with `s`. -/
def lookingAt (s : String) : Reader Bool := do return s.toList.isPrefixOf (← rest)

/-- Moves past a newline, `\n` or `\r\n`, if one is next. -/
def newline? : Reader Bool := do
  if (← peek) == some '\n' then bump; return true
  if (← peek) == some '\r' && (← peekAt 1) == some '\n' then bump; bump; return true
  return false

/-- The value of a hex digit. -/
def hexDigitValue (c : Char) : Option Nat :=
  if '0' ≤ c && c ≤ '9' then some (c.toNat - 48)
  else if 'a' ≤ c && c ≤ 'f' then some (c.toNat - 87)
  else if 'A' ≤ c && c ≤ 'F' then some (c.toNat - 55)
  else none

/-- The number of `n` hex digits. -/
def hexNumber (cs : List Char) : Option Nat :=
  cs.foldl (fun acc c => do return 16 * (← acc) + (← hexDigitValue c)) (some 0)

/-- Reads the escape after a backslash in a basic string. -/
def escape : Reader Char := do
  let some c ← peek | fail "invalid escape sequence"
  bump
  let unicode (n : Nat) : Reader Char := do
    let digits := (← rest).take n
    if digits.length != n then fail "invalid unicode escape"
    match hexNumber digits with
    | some v =>
      if v < 0xD800 || (0xDFFF < v && v ≤ 0x10FFFF) then
        modify (· + n)
        return Char.ofNat v
      else fail "invalid unicode escape"
    | none => fail "invalid unicode escape"
  match c with
  | 'b' => return '\x08'
  | 't' => return '\t'
  | 'n' => return '\n'
  | 'f' => return '\x0c'
  | 'r' => return '\r'
  | '"' => return '"'
  | '\\' => return '\\'
  | 'u' => unicode 4
  | 'U' => unicode 8
  | _ => fail "invalid escape sequence"

/-- Reads a one-line basic string; the opening quote is next. -/
def basicString : Reader String := do
  bump
  let mut out : List Char := []
  for _ in [0:(← read).size + 1] do
    match ← peek with
    | none => fail "invalid basic string"
    | some '"' => bump; return String.ofList out.reverse
    | some '\\' => bump; out := (← escape) :: out
    | some c =>
      if isForbiddenControl c || c == '\n' then fail "invalid basic string"
      bump
      out := c :: out
  fail "invalid basic string"

/-- Reads a one-line literal string; the opening quote is next. -/
def literalString : Reader String := do
  bump
  let mut out : List Char := []
  for _ in [0:(← read).size + 1] do
    match ← peek with
    | none => fail "invalid literal string"
    | some '\x27' => bump; return String.ofList out.reverse
    | some c =>
      if isForbiddenControl c || c == '\n' then fail "invalid literal string"
      bump
      out := c :: out
  fail "invalid literal string"

/-- Reads a string over several lines; the three opening quotes `q` are next. -/
def multilineString (q : Char) : Reader String := do
  modify (· + 3)
  discard newline?
  let mut out : List Char := []
  for _ in [0:(← read).size + 1] do
    let cs ← rest
    let quotes := (cs.takeWhile (· == q)).length
    if quotes ≥ 3 then
      if quotes > 5 then fail "invalid multiline string"
      modify (· + quotes)
      return String.ofList (List.replicate (quotes - 3) q ++ out).reverse
    match cs with
    | [] => fail "invalid multiline string"
    | c :: _ =>
      if c == q then bump; out := c :: out
      else if ← newline? then out := '\n' :: out
      else if c == '\\' && q == '"' then
        let after := cs.drop 1
        let blanks := after.takeWhile isBlank
        match after.drop blanks.length with
        | '\n' :: _ | '\r' :: '\n' :: _ =>
          modify (· + 1 + blanks.length)
          skipWhile fun x => isBlank x || x == '\n' || x == '\r'
        | _ => bump; out := (← escape) :: out
      else if isForbiddenControl c then fail "invalid multiline string"
      else bump; out := c :: out
  fail "invalid multiline string"

/-- Reads any string; a quote is next. -/
def stringValue : Reader String := do
  if ← lookingAt "\"\"\"" then multilineString '"'
  else if ← lookingAt "\x27\x27\x27" then multilineString '\x27'
  else if (← peek) == some '"' then basicString
  else literalString

/-- Whether a character may stand in a bare key. -/
def isBareKeyChar (c : Char) : Bool :=
  ('A' ≤ c && c ≤ 'Z') || ('a' ≤ c && c ≤ 'z') || ('0' ≤ c && c ≤ '9') || c == '_' || c == '-'

/-- Reads one key name: bare, or a one-line string. -/
def simpleKey : Reader String := do
  match ← peek with
  | some '"' =>
    if ← lookingAt "\"\"\"" then fail "invalid key" else basicString
  | some '\x27' =>
    if ← lookingAt "\x27\x27\x27" then fail "invalid key" else literalString
  | some c =>
    if isBareKeyChar c then
      let name := (← rest).takeWhile isBareKeyChar
      modify (· + name.length)
      return String.ofList name
    else fail "invalid key"
  | none => fail "invalid key"

/-- Reads a dotted key: names joined by dots, with blanks around the dots. -/
def dottedKey : Reader (List String) := do
  let mut names := [← simpleKey]
  for _ in [0:(← read).size + 1] do
    skipBlanks
    if (← peek) == some '.' then
      bump
      skipBlanks
      names := names ++ [← simpleKey]
    else return names
  return names

/-- Whether text is one or more digits of a kind, single underscores between them. -/
def digitsWithUnderscores (isDigit : Char → Bool) (cs : List Char) : Bool :=
  match cs with
  | [] => false
  | c :: more =>
    isDigit c && (more.foldl (fun (ok, prevUnderscore) x =>
      if x == '_' then (ok && !prevUnderscore, true)
      else (ok && isDigit x, false)) (true, false) |> fun (ok, last) => ok && !last)

/-- The number of digits, underscores dropped. -/
def digitValue (base : Nat) (cs : List Char) : Nat :=
  (cs.filter (· != '_')).foldl (fun acc c => base * acc + (hexDigitValue c).getD 0) 0

/-- Whether text is a decimal integer without leading zeros. -/
def isDecInt (cs : List Char) : Bool :=
  match cs with
  | ['0'] => true
  | '0' :: _ => false
  | _ => digitsWithUnderscores Char.isDigit cs

/-- Reads an integer from its text. -/
def integerOf (cs : List Char) : Option Int :=
  let bounded (v : Int) : Option Int := if -(Nat.pow 2 63 : Int) ≤ v && v < (Nat.pow 2 63 : Int) then some v else none
  let based (base : Nat) (isDigit : Char → Bool) (ds : List Char) : Option Int :=
    if digitsWithUnderscores isDigit ds then bounded (digitValue base ds) else none
  match cs with
  | '0' :: 'x' :: ds => based 16 (fun c => (hexDigitValue c).isSome) ds
  | '0' :: 'o' :: ds => based 8 (fun c => '0' ≤ c && c ≤ '7') ds
  | '0' :: 'b' :: ds => based 2 (fun c => c == '0' || c == '1') ds
  | '+' :: ds => if isDecInt ds then bounded (digitValue 10 ds) else none
  | '-' :: ds => if isDecInt ds then bounded (-(digitValue 10 ds : Int)) else none
  | ds => if isDecInt ds then bounded (digitValue 10 ds) else none

/-- Whether text is a float. -/
def isFloat (cs : List Char) : Bool :=
  let unsigned := match cs with
    | '+' :: ds | '-' :: ds => ds
    | ds => ds
  if unsigned == "inf".toList || unsigned == "nan".toList then true
  else
    let intPart := unsigned.takeWhile fun (c : Char) => c.isDigit || c == '_'
    let after := unsigned.drop intPart.length
    let (frac, afterFrac) := match after with
      | '.' :: more =>
        let f := more.takeWhile fun (c : Char) => c.isDigit || c == '_'
        (some f, more.drop f.length)
      | _ => (none, after)
    let expOk (e : List Char) : Bool :=
      match e with
      | '+' :: ds | '-' :: ds => digitsWithUnderscores Char.isDigit ds
      | ds => digitsWithUnderscores Char.isDigit ds
    let exp := match afterFrac with
      | 'e' :: e | 'E' :: e => some (expOk e)
      | [] => none
      | _ => some false
    isDecInt intPart && (frac.map (digitsWithUnderscores Char.isDigit)).getD true
      && (frac.isSome || exp.isSome) && exp.getD true

/-- Whether `n` digits stand at the start of text. -/
def digitsAt (cs : List Char) (n : Nat) : Bool := (cs.take n).length == n && (cs.take n).all Char.isDigit

/-- The number of two digits. -/
def twoDigits (cs : List Char) : Nat := digitValue 10 (cs.take 2)

/-- Whether a year is a leap year. -/
def isLeapYear (y : Nat) : Bool := y % 4 == 0 && (y % 100 != 0 || y % 400 == 0)

/-- Whether text is a valid date `yyyy-mm-dd`. -/
def isDate (cs : List Char) : Bool :=
  cs.length == 10 && digitsAt cs 4 && cs[4]? == some '-' && digitsAt (cs.drop 5) 2
    && cs[7]? == some '-' && digitsAt (cs.drop 8) 2 &&
    let y := digitValue 10 (cs.take 4)
    let m := twoDigits (cs.drop 5)
    let d := twoDigits (cs.drop 8)
    let days := if m == 2 then (if isLeapYear y then 29 else 28)
      else if m == 4 || m == 6 || m == 9 || m == 11 then 30 else 31
    1 ≤ m && m ≤ 12 && 1 ≤ d && d ≤ days

/-- Whether text is a valid time `hh:mm:ss` with an optional fraction, followed by an
offset when `offset` holds. -/
def isTime (cs : List Char) (offset : Bool) : Bool :=
  digitsAt cs 2 && cs[2]? == some ':' && digitsAt (cs.drop 3) 2 && cs[5]? == some ':'
    && digitsAt (cs.drop 6) 2 &&
    twoDigits cs ≤ 23 && twoDigits (cs.drop 3) ≤ 59 && twoDigits (cs.drop 6) ≤ 60 &&
    let more := cs.drop 8
    let more := match more with
      | '.' :: ds => if (ds.takeWhile Char.isDigit).isEmpty then ['!'] else ds.dropWhile Char.isDigit
      | _ => more
    if !offset then more.isEmpty
    else match more with
      | ['Z'] | ['z'] => true
      | s :: o => (s == '+' || s == '-') && o.length == 5 && digitsAt o 2 && o[2]? == some ':'
          && digitsAt (o.drop 3) 2 && twoDigits o ≤ 23 && twoDigits (o.drop 3) ≤ 59
      | [] => false

/-- Whether text is a date-time of one of the four kinds. -/
def isDateTime (cs : List Char) : Bool :=
  if cs.length == 10 then isDate cs
  else if digitsAt cs 2 && cs[2]? == some ':' then isTime cs false
  else
    isDate (cs.take 10) && (cs[10]? == some 'T' || cs[10]? == some 't' || cs[10]? == some ' ')
      && (isTime (cs.drop 11) false || isTime (cs.drop 11) true)

/-- Whether a character may stand in a number or date-time. -/
def isScalarChar (c : Char) : Bool :=
  c.isAlphanum || c == '_' || c == '+' || c == '-' || c == '.' || c == ':'

/-- Reads a number, a date-time or a boolean. -/
def scalarValue : Reader Doc := do
  let start ← get
  let cs ← rest
  let word := cs.takeWhile isScalarChar
  -- a date followed by a blank and a time is one date-time
  let word :=
    if isDate word && cs[10]? == some ' ' && digitsAt (cs.drop 11) 2 && cs[13]? == some ':' then
      word ++ ' ' :: (cs.drop 11).takeWhile isScalarChar
    else word
  if word.isEmpty then fail "invalid value"
  modify (· + word.length)
  let text := String.ofList word
  if text == "true" then return .bool true
  if text == "false" then return .bool false
  if (word.take 4).all Char.isDigit && word[4]? == some '-' || (digitsAt word 2 && word[2]? == some ':') then
    if isDateTime word then return .datetime text
    throw ⟨start, "invalid date-time"⟩
  match integerOf word with
  | some n => return .int n
  | none =>
    if isFloat word then return .float text
    throw ⟨start, "invalid number"⟩

end DumpTopology.Toml
