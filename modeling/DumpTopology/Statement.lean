/-!
# Statements of schema files

A schema file holds SQL statements over lines. The statements are collected line by
line: each line is cut at its newline and trimmed of ASCII blanks, and blank lines are
passed over. Lines gather into a statement until one ends in `;`; a statement's lines are
joined by newlines. A statement that opens with `/*` and closes with `*/;` is a comment
and is dropped; the others are kept, one after the other with nothing between them. A
statement left open at the end of the file is dropped.
-/
namespace DumpTopology

/-- Whether a byte is an ASCII blank: space, tab, newline, form feed or carriage return. -/
def isAsciiBlank (b : UInt8) : Bool := b == 32 || b == 9 || b == 10 || b == 12 || b == 13

/-- A line without its leading and trailing blanks. -/
def trimLine (line : List UInt8) : List UInt8 :=
  ((line.dropWhile isAsciiBlank).reverse.dropWhile isAsciiBlank).reverse

/-- Whether a statement is a comment: it opens with `/*` and closes with `*/;`. -/
def isCommentStatement (s : List UInt8) : Bool :=
  [47, 42].isPrefixOf s && [42, 47, 59].isSuffixOf s

/-- The statements kept so far and the statement being gathered. -/
structure Collector where
  kept : List UInt8 := []
  pending : List UInt8 := []
  deriving Inhabited

/-- Takes in one line. -/
def Collector.push (c : Collector) (line : List UInt8) : Collector :=
  let line := trimLine line
  if line.isEmpty then c
  else
    let stmt := c.pending ++ line
    if stmt.getLast? == some 59 then
      if isCommentStatement stmt then { c with pending := [] } else ⟨c.kept ++ stmt, []⟩
    else { c with pending := stmt ++ [10] }

/-- The kept statements of a file's bytes. -/
def collectStatements (bytes : List UInt8) : List UInt8 :=
  ((bytes.splitOn 10).foldl Collector.push {}).kept

end DumpTopology
