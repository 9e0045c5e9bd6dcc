import DumpTopology.Regex.Source

/-!
# Texts of refused patterns

A refusal is reported with the pattern and a line of carets under the span it is about,
followed by the reason. A pattern of several lines is framed by two lines of tildes, and
each line is numbered. A pattern over the size limit is reported with the limit alone.
-/
namespace DumpTopology.Regex

/-- The reason of a refusal in words. -/
def FaultKind.describe : FaultKind → String
  | .classEscapeInvalid => "invalid escape sequence found in character class"
  | .classRangeInvalid => "invalid character class range, the start must be <= the end"
  | .classRangeLiteral => "invalid range boundary, must be a literal"
  | .classUnclosed => "unclosed character class"
  | .decimalEmpty => "decimal literal empty"
  | .decimalInvalid => "decimal literal invalid"
  | .hexEmpty => "hexadecimal literal empty"
  | .hexInvalid => "hexadecimal literal is not a Unicode scalar value"
  | .hexInvalidDigit => "invalid hexadecimal digit"
  | .escapeEof => "incomplete escape sequence, reached end of pattern prematurely"
  | .escapeUnrecognized => "unrecognized escape sequence"
  | .flagDanglingNegation => "dangling flag negation operator"
  | .flagDuplicate => "duplicate flag"
  | .flagRepeatedNegation => "flag negation operator repeated"
  | .flagEof => "expected flag but got end of regex"
  | .flagUnrecognized => "unrecognized flag"
  | .nameDuplicate => "duplicate capture group name"
  | .nameEmpty => "empty capture group name"
  | .nameInvalid => "invalid capture group character"
  | .nameEof => "unclosed capture group name"
  | .groupUnclosed => "unclosed group"
  | .groupUnopened => "unopened group"
  | .nestLimit => "exceed the maximum number of nested parentheses/brackets (250)"
  | .repetitionCountInvalid => "invalid repetition count range, the start must be <= the end"
  | .repetitionCountDecimalEmpty => "repetition quantifier expects a valid decimal"
  | .repetitionCountUnclosed => "unclosed counted repetition"
  | .repetitionMissing => "repetition operator missing expression"
  | .wordBoundaryUnclosed =>
    "special word boundary assertion is either unclosed or contains an invalid character"
  | .wordBoundaryUnrecognized =>
    "unrecognized special word boundary assertion, valid choices are: start, end, start-half or end-half"
  | .wordOrRepetitionEof =>
    "found either the beginning of a special word boundary or a bounded repetition on a \\b with an opening brace, but no closing brace"
  | .unicodeClassInvalid => "invalid Unicode character class"
  | .backreference => "backreferences are not supported"
  | .lookAround => "look-around, including look-ahead and look-behind, is not supported"
  | .unicodeNotAllowed => "Unicode not allowed here"
  | .invalidUtf8 => "pattern can match invalid UTF-8"
  | .propertyNotFound => "Unicode property not found"
  | .tooLarge _ => "compiled regex exceeds size limit"

/-- `n` copies of a character. -/
def repeatChar (c : Char) (n : Nat) : String := String.ofList (List.replicate n c)

/-- The line and column (both from 1) of a character offset in lines of characters. -/
def lineColumn (lines : List (List Char)) (offset : Nat) : Nat × Nat :=
  go lines offset 1
where
  go : List (List Char) → Nat → Nat → Nat × Nat
    | [], o, l => (l, o + 1)
    | [_], o, l => (l, o + 1)
    | line :: rest, o, l => if o ≤ line.length then (l, o + 1) else go rest (o - line.length - 1) (l + 1)

/-- The text of a refusal of a pattern. -/
def Fault.render (f : Fault) (pattern : String) : String :=
  match f.kind with
  | .tooLarge limit => s!"Compiled regex exceeds size limit of {limit} bytes."
  | kind =>
    let lines := pattern.toList.splitOn '\n'
    let (l1, c1) := lineColumn lines f.start
    let (l2, c2) := lineColumn lines f.stop
    let carets (width : Nat) (pad : Nat) : String :=
      repeatChar ' ' (pad + c1 - 1) ++ repeatChar '^' width
    if lines.length ≤ 1 then
      "regex parse error:\n    " ++ pattern ++ "\n" ++ carets (max 1 (c2 - c1)) 4
        ++ "\nerror: " ++ kind.describe
    else
      let width := (toString lines.length).length
      let divider := repeatChar '~' 79
      let numbered := (lines.zipIdx.map fun (line, i) =>
        let n := toString (i + 1)
        let head := repeatChar ' ' (width - n.length) ++ n ++ ": " ++ String.ofList line
        if i + 1 == l1 && l1 == l2 then head ++ "\n" ++ carets (max 1 (c2 - c1)) (width + 2)
        else head)
      let note := if l1 == l2 then ""
        else s!"on line {l1} (column {c1}) through line {l2} (column {c2 - 1})\n"
      "regex parse error:\n" ++ divider ++ "\n" ++ "\n".intercalate numbered ++ "\n" ++ divider
        ++ "\n" ++ note ++ "error: " ++ kind.describe

end DumpTopology.Regex
