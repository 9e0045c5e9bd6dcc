import DumpTopology.Text.Width

/-!
# Text tables

A table of text cells drawn with box characters: a border around it, a double line under
the header, dotted lines between columns and no lines between rows. Each column is as wide
as its widest line of text, measured in display columns, with one space of padding on
either side; a cell's text is split at newlines, and a row is as tall as its tallest cell.
-/
namespace DumpTopology

/-- A table: a header and rows of cells. -/
structure Grid where
  header : List String
  rows : List (List String)

namespace Grid

/-- The lines of a cell. -/
def cellLines (s : String) : List String := s.splitOn "\n"

/-- The width of a cell: its widest line. -/
def cellWidth (s : String) : Nat := ((cellLines s).map Text.displayWidth).foldl max 0

/-- The width of each column. -/
def widths (g : Grid) : List Nat :=
  (g.header :: g.rows).foldl (fun acc row =>
    (List.range (max acc.length row.length)).map fun i =>
      max (acc.getD i 0) (cellWidth (row.getD i ""))) []

/-- A rule across the table: its left end, the fill of each column, the joints and the
right end. -/
def rule (ws : List Nat) (left fill joint right : Char) : String :=
  String.ofList [left] ++
    String.intercalate (String.ofList [joint]) (ws.map fun w => String.ofList (List.replicate (w + 2) fill)) ++
    String.ofList [right]

/-- The text lines of a row. -/
def rowLines (ws : List Nat) (row : List String) : List String :=
  let cells := (List.range ws.length).map fun i => cellLines (row.getD i "")
  let height := (cells.map List.length).foldl max 1
  (List.range height).map fun k =>
    let parts := (List.range ws.length).map fun i =>
      let line := ((cells.getD i []).getD k "")
      " " ++ line ++ String.ofList (List.replicate (ws.getD i 0 - Text.displayWidth line) ' ') ++ " "
    "│" ++ String.intercalate "┆" parts ++ "│"

/-- The lines of a table. -/
def render (g : Grid) : List String :=
  let ws := g.widths
  [rule ws '┌' '─' '┬' '┐'] ++ rowLines ws g.header ++ [rule ws '╞' '═' '╪' '╡'] ++
    g.rows.flatMap (rowLines ws) ++ [rule ws '└' '─' '┴' '┘']

end Grid

end DumpTopology
