import Lanewise.Text.Width

namespace Lanewise.Command

/-- The lines of a cell. -/
def cellLines (cell : String) : List String :=
  (cell.toList.splitOn '\n').map String.ofList

def cellWidth (cell : String) : Nat :=
  ((cellLines cell).map Text.width).foldl max 0

/-- The width of each column: that of its widest cell. -/
def columnWidths (header : List String) (rows : List (List String)) : List Nat :=
  rows.foldl (fun widths row => widths.zipWith max (row.map cellWidth)) (header.map cellWidth)

/-- Fills a line of a cell with spaces, and puts one on either side. -/
def pad (width : Nat) (text : String) : String :=
  " " ++ text ++ String.ofList (List.replicate (width - Text.width text) ' ') ++ " "

/-- A row, as many lines high as its highest cell. -/
def rowLines (widths : List Nat) (row : List String) : List String :=
  let cells := row.map cellLines
  let height := (cells.map List.length).foldl max 0
  (List.range height).map fun n =>
    String.intercalate "|" (widths.zipWith (fun width cell => pad width (cell[n]?.getD "")) cells)

/-- A table with a rule under its header. -/
def renderTable (header : List String) (rows : List (List String)) : String :=
  let widths := columnWidths header rows
  let rule := String.intercalate "+"
    (widths.map fun width => String.ofList (List.replicate (width + 2) '-'))
  String.intercalate "\n" (rowLines widths header ++ [rule] ++ rows.flatMap (rowLines widths))

end Lanewise.Command
