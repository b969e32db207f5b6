import LineEcho.Text.Split
import LineEcho.Text.Width

/-!
# Tables drawn with plus signs, dashes and bars

A table is a row of names over rows of cells. Every column is as wide as the widest line in it, with
a blank on each side, and a ruling stands above the first row and below every row. A cell with
newlines has several lines, and the other cells of its row are filled up with empty ones.
-/

namespace LineEcho.Output

/-- A table: the names of its columns, and its rows. -/
structure Table where
  names : List String
  rows : List (List String)

namespace Table

def cellLines (cell : String) : List (List Char) :=
  Text.split '\n' cell.toList

def cellWidth (cell : String) : Nat :=
  ((cellLines cell).map Text.width).foldl max 0

def widths (table : Table) : List Nat :=
  table.rows.foldl (fun widths row => List.zipWith max widths (row.map cellWidth))
    (table.names.map cellWidth)

def ruling (widths : List Nat) : List Char :=
  widths.foldl (fun drawn width => drawn ++ List.replicate (width + 2) '-' ++ ['+']) ['+']

/-- One line of a row, given its part of each cell and the widths of the columns. -/
def rowLine (parts : List (List Char × Nat)) : List Char :=
  parts.foldl
    (fun drawn (part, width) =>
      drawn ++ [' '] ++ part ++ List.replicate (width - Text.width part) ' ' ++ [' ', '|'])
    ['|']

def rowLines (widths : List Nat) (row : List String) : List (List Char) :=
  let cells := row.map cellLines
  let height := (cells.map List.length).foldl max 0
  (List.range height).map (fun index =>
    rowLine ((cells.map (fun lines => (lines[index]?).getD [])).zip widths))

/-- The text of a table, without a newline at its end. -/
def draw (table : Table) : String :=
  let widths := table.widths
  let lines :=
    (table.names :: table.rows).flatMap (fun row => rowLines widths row ++ [ruling widths])
  String.ofList (['\n'].intercalate (ruling widths :: lines))

end Table

end LineEcho.Output
