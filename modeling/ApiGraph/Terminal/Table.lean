import ApiGraph.Text
import ApiGraph.Text.DisplayWidth

namespace ApiGraph.Terminal

/-! Tables of text. Rules go along the top, under the headings and along the bottom; columns are as
wide as their widest cell. -/

inductive Alignment where
  | left
  | right
  deriving DecidableEq, Repr

structure Column where
  heading : String
  /-- How the cells below the heading are aligned. -/
  alignment : Alignment := .left

structure Table where
  columns : List Column
  rows : List (List String)

/-- The lines of a cell. -/
def cellLines (cell : String) : List (List Char) := Text.pieces '\n' cell.toList

def cellWidth (cell : String) : Nat :=
  ((cellLines cell).map Text.displayWidth).foldl max 0

/-- The widths of the columns of several rows, which all have the same number of cells. -/
def columnWidths (headings : List String) (rows : List (List String)) : List Nat :=
  rows.foldl (fun widths row => widths.zipWith max (row.map cellWidth)) (headings.map cellWidth)

def padded (alignment : Alignment) (width : Nat) (line : List Char) : List Char :=
  let space := List.replicate (width - Text.displayWidth line) ' '
  match alignment with
  | .left => line ++ space
  | .right => space ++ line

/-- One line of text of a row, with a blank on each side of every cell and another one between
them. -/
def rowLine (cells : List (Alignment × Nat × List Char)) : String :=
  " ".intercalate (cells.map fun (alignment, width, line) =>
    " " ++ String.ofList (padded alignment width line) ++ " ")

/-- A row, as many lines high as the highest of its cells. -/
def rowLines (columns : List (Alignment × Nat)) (row : List String) : List String :=
  let cells := row.map cellLines
  let height := (cells.map List.length).foldl max 1
  (List.range height).map fun index =>
    rowLine (columns.zipWith (fun (alignment, width) lines =>
      (alignment, width, lines[index]?.getD [])) cells)

def rule (width : Nat) : String := String.ofList (List.replicate width '─')

namespace Table

def lines (table : Table) : List String :=
  let headings := table.columns.map Column.heading
  let widths := columnWidths headings table.rows
  let rules := widths.map fun width => rule (width + 2)
  let border := " ".intercalate rules
  let body := (table.columns.map Column.alignment).zip widths
  [border] ++ rowLines (widths.map fun width => (.left, width)) headings ++
    ["─".intercalate rules] ++ table.rows.flatMap (rowLines body) ++ [border]

def text (table : Table) : String := "\n".intercalate table.lines

end Table

end ApiGraph.Terminal
