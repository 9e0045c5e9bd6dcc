import DumpTopology.Doc

/-!
# JSON text

Documents are written as JSON with fields in their order. A string escapes the quote,
the backslash and the control characters: the usual short escapes for backspace, form
feed, newline, carriage return and tab, and `\u00XX` with lowercase hexadecimal for the
others. Every other character is written as it is.

The pretty form puts each item and field on its own line, indented by two spaces per
level, with `": "` after a field name; empty arrays and tables stay `[]` and `{}`.
-/
namespace DumpTopology

/-- A lowercase hexadecimal digit. -/
def hexDigit (n : Nat) : Char := if n < 10 then Char.ofNat (48 + n) else Char.ofNat (87 + n)

/-- The JSON escape of one character. -/
def jsonEscapeChar (c : Char) : List Char :=
  if c == '"' then ['\\', '"']
  else if c == '\\' then ['\\', '\\']
  else if c == '\n' then ['\\', 'n']
  else if c == '\r' then ['\\', 'r']
  else if c == '\t' then ['\\', 't']
  else if c == '\x08' then ['\\', 'b']
  else if c == '\x0C' then ['\\', 'f']
  else if c.toNat < 0x20 then
    ['\\', 'u', '0', '0', hexDigit (c.toNat / 16), hexDigit (c.toNat % 16)]
  else [c]

/-- A string as a JSON string literal. -/
def jsonQuote (s : String) : String :=
  "\"" ++ String.ofList (s.toList.flatMap jsonEscapeChar) ++ "\""

namespace Doc

/-- Spaces for a level of indentation. -/
def indent (depth : Nat) : String := String.ofList (List.replicate (2 * depth) ' ')

mutual
/-- The compact JSON text of a document. -/
def compact : Doc → String
  | .null => "null"
  | .bool b => if b then "true" else "false"
  | .int n => toString n
  | .float t => t
  | .datetime t => jsonQuote t
  | .str s => jsonQuote s
  | .arr items => "[" ++ compactItems items ++ "]"
  | .table fields => "\x7b" ++ compactFields fields ++ "\x7d"

/-- Compact items separated by commas. -/
def compactItems : List Doc → String
  | [] => ""
  | [d] => compact d
  | d :: rest => compact d ++ "," ++ compactItems rest

/-- Compact fields separated by commas. -/
def compactFields : List (String × Doc) → String
  | [] => ""
  | [(k, v)] => jsonQuote k ++ ":" ++ compact v
  | (k, v) :: rest => jsonQuote k ++ ":" ++ compact v ++ "," ++ compactFields rest
end

mutual
/-- The pretty JSON text of a document whose first line is indented by `depth` levels. -/
def pretty (depth : Nat) : Doc → String
  | .arr [] => "[]"
  | .table [] => "\x7b\x7d"
  | .arr items => "[\n" ++ prettyItems (depth + 1) items ++ "\n" ++ indent depth ++ "]"
  | .table fields =>
    "\x7b\n" ++ prettyFields (depth + 1) fields ++ "\n" ++ indent depth ++ "\x7d"
  | d => compact d

/-- Pretty items, one per line. -/
def prettyItems (depth : Nat) : List Doc → String
  | [] => ""
  | [d] => indent depth ++ pretty depth d
  | d :: rest => indent depth ++ pretty depth d ++ ",\n" ++ prettyItems depth rest

/-- Pretty fields, one per line. -/
def prettyFields (depth : Nat) : List (String × Doc) → String
  | [] => ""
  | [(k, v)] => indent depth ++ jsonQuote k ++ ": " ++ pretty depth v
  | (k, v) :: rest =>
    indent depth ++ jsonQuote k ++ ": " ++ pretty depth v ++ ",\n" ++ prettyFields depth rest
end

end Doc

end DumpTopology
