import Rekey.Text.Cut
import Rekey.Text.Width

/-!
# Tables of text

A table has a header and rows of cells. Each column is as wide as its widest line and one blank on
each side; a cell with line breaks makes its row as many lines high.
-/

namespace Rekey

open Rekey.Text (cut join lineWidth)

/-- A table of text. -/
structure TextTable where
  header : List String
  rows : List (List String)
deriving Repr, DecidableEq

namespace TextTable

/-- The lines of a cell. -/
def cellLines (cell : String) : List (List Char) :=
  cut '\n' cell.toList

/-- The width of a cell's widest line. -/
def cellWidth (cell : String) : Nat :=
  (cellLines cell).foldl (fun w line => max w (lineWidth line)) 0

/-- The widths of the columns, blanks not counted. -/
def widths (t : TextTable) : List Nat :=
  t.rows.foldl (fun ws row => List.zipWith (fun w cell => max w (cellWidth cell)) ws row)
    (t.header.map cellWidth)

/-- A line of marks over the columns. -/
def rule (left mark crossing right : Char) (ws : List Nat) : List Char :=
  left :: join [crossing] (ws.map fun w => List.replicate (w + 2) mark) ++ [right]

/-- One line of a cell, filled up to the width of its column. -/
def paddedLine (w : Nat) (line : List Char) : List Char :=
  ' ' :: line ++ List.replicate (w - lineWidth line) ' ' ++ [' ']

/-- The lines of a row: each cell gives its next line, an exhausted cell an empty one. -/
def rowLines (ws : List Nat) (row : List String) : List (List Char) :=
  let cells := row.map cellLines
  let height := cells.foldl (fun h c => max h c.length) 0
  (List.range height).map fun i =>
    let parts := List.zipWith (fun w cell => paddedLine w (cell[i]?.getD [])) ws cells
    '|' :: join ['|'] parts ++ ['|']

/-- The lines of a table. -/
def lines (t : TextTable) : List (List Char) :=
  let ws := t.widths
  [rule '+' '-' '+' '+' ws] ++ rowLines ws t.header ++ [rule '+' '=' '=' '+' ws] ++
    List.flatten ((t.rows.map (rowLines ws)).intersperse [rule '|' '-' '+' '|' ws]) ++
    [rule '+' '-' '+' '+' ws]

/-- The text of a table, without a line break at its end. -/
def text (t : TextTable) : String :=
  String.ofList (join ['\n'] t.lines)

end TextTable

end Rekey
