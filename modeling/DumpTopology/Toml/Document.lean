import DumpTopology.Toml.Reader
import DumpTopology.Toml.Table

/-!
# TOML documents

A document is read line by line: each line holds nothing, a comment, a table header, or
a key and its value, and after any of them only blanks and a comment. Arrays may spread
over lines and hold comments; inline tables stay on one line and take no trailing comma.
A byte-order mark at the start is passed over.

A fault is reported at its line and column, with the line shown and the column marked.
-/
namespace DumpTopology.Toml

/-- Passes over a comment; its `#` is next. -/
def comment : Reader Unit := do
  bump
  let body := (← rest).takeWhile fun c => c != '\n' && !(c == '\r')
  match body.find? isForbiddenControl with
  | some _ => fail "invalid comment"
  | none => modify (· + body.length)

/-- Passes over blanks, comments and newlines. -/
def skipTrivia : Reader Unit := do
  for _ in [0:(← read).size + 1] do
    skipBlanks
    if (← peek) == some '#' then comment
    if !(← newline?) then return

/-- Lifts a table fault at a position. -/
def building {α : Type} (pos : Nat) : Building α → Reader α
  | .ok a => pure a
  | .error e => throw ⟨pos, e.message⟩

mutual
/-- Reads a value; `fuel` bounds the nesting. -/
def value : Nat → Reader Doc
  | 0 => fail "nesting too deep"
  | fuel + 1 => do
    match ← peek with
    | some '"' | some '\x27' => return .str (← stringValue)
    | some '[' => arrayValue fuel
    | some '{' => inlineTable fuel
    | _ => scalarValue

/-- Reads an array; its `[` is next. -/
def arrayValue (fuel : Nat) : Reader Doc := do
  bump
  let mut items : List Doc := []
  for _ in [0:(← read).size + 1] do
    skipTrivia
    if (← peek) == some ']' then bump; return .arr items
    items := items ++ [← value fuel]
    skipTrivia
    match ← peek with
    | some ',' => bump
    | some ']' => bump; return .arr items
    | _ => fail "invalid array"
  fail "invalid array"

/-- Reads an inline table; its `{` is next. -/
def inlineTable (fuel : Nat) : Reader Doc := do
  bump
  skipBlanks
  if (← peek) == some '}' then bump; return .table []
  let mut fields : List (String × Node) := []
  for _ in [0:(← read).size + 1] do
    skipBlanks
    let start ← get
    let key ← dottedKey
    skipBlanks
    if (← peek) != some '=' then fail "expected '='"
    bump
    skipBlanks
    let v ← value fuel
    fields ← building start (setValue fields [] key v)
    skipBlanks
    match ← peek with
    | some ',' => bump
    | some '}' => bump; return (Node.table false false fields).toDoc
    | _ => fail "invalid inline table"
  fail "invalid inline table"
end

/-- The tables read so far and the path of the table that keys go into. -/
structure DocState where
  root : List (String × Node) := []
  current : List String := []

/-- Reads one line's expression into the state. -/
def expression (st : DocState) : Reader DocState := do
  let start ← get
  match ← peek with
  | some '[' =>
    if (← peekAt 1) == some '[' then
      modify (· + 2)
      skipBlanks
      let path ← dottedKey
      skipBlanks
      if !(← lookingAt "]]") then fail "invalid array table header"
      modify (· + 2)
      return ⟨← building start (openArrayTable st.root path), path⟩
    else
      bump
      skipBlanks
      let path ← dottedKey
      skipBlanks
      if (← peek) != some ']' then fail "invalid table header"
      bump
      return ⟨← building start (openTable st.root path), path⟩
  | _ =>
    let key ← dottedKey
    skipBlanks
    if (← peek) != some '=' then fail "expected '='"
    bump
    skipBlanks
    let v ← value ((← read).size + 1)
    return { st with root := ← building start (setValue st.root st.current key v) }

/-- Reads a whole document. -/
def documentReader : Reader Doc := do
  if (← peek) == some '\uFEFF' then bump
  let mut st : DocState := {}
  for _ in [0:(← read).size + 1] do
    skipBlanks
    match ← peek with
    | none => return (Node.table false false st.root).toDoc
    | some '#' => comment
    | some '\n' | some '\r' => pure ()
    | some _ => st ← expression st
    skipBlanks
    if (← peek) == some '#' then comment
    if (← peek).isNone then return (Node.table false false st.root).toDoc
    if !(← newline?) then fail "expected newline"
  fail "invalid document"

/-- The line and column, both from zero, of a character position. -/
def lineColumn (text : List Char) (pos : Nat) : Nat × Nat :=
  let before := text.take pos
  let line := before.count '\n'
  let column := (before.reverse.takeWhile (· != '\n')).length
  (line, column)

/-- The text of a fault: where it is, the line with a mark under the place, and why. -/
def Fault.render (text : String) (f : Fault) : String :=
  let (line, column) := lineColumn text.toList f.pos
  let number := toString (line + 1)
  let gutter := String.ofList (List.replicate (number.length + 1) ' ')
  let content := ((text.splitOn "\n")[line]?).getD ""
  let pad := String.ofList (List.replicate (column + 1) ' ')
  s!"TOML parse error at line {line + 1}, column {column + 1}\n{gutter}|\n{number} | {content}\n" ++
    s!"{gutter}|{pad}^\n{f.message}\n"

/-- Reads a TOML document into its table. -/
def parseDocument (text : String) : Except String Doc :=
  match (documentReader.run text.toList.toArray).run 0 with
  | .ok (d, _) => .ok d
  | .error f => .error (f.render text)

end DumpTopology.Toml
