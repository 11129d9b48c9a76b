import DiffGauge.Text.Cells
import DiffGauge.Text.Pieces
import DiffGauge.Total

/-!
# Tables

A table has a title above it, a heavy frame around its head and a light one around its rows.
Every column is as wide as its widest cell, and a blank stands at either side of a cell. These are
the tables of the standard console; a report does not depend on them.
-/

namespace DiffGauge.Report

open Text

/-- Where a cell stands in its column. -/
inductive Side where
  | left
  | middle
  | right
  deriving DecidableEq, Repr

/-- A column: its head, where its cells stand, and its least width. -/
structure Column where
  head : String
  side : Side := .left
  least : Nat := 0
  deriving Repr

/-- So many blanks. -/
def blanks (n : Nat) : String := String.ofList (List.replicate n ' ')

/-- A text in a field of some width. An odd blank goes to the right of the middle. -/
def placed (side : Side) (width : Nat) (s : String) : String :=
  let spare := width - cells s
  match side with
  | .left => s ++ blanks spare
  | .middle => blanks (spare / 2) ++ s ++ blanks (spare - spare / 2)
  | .right => blanks spare ++ s

/-- The lines of a cell. -/
def cellLines (s : String) : List String := (pieces '\n' s.toList).map String.ofList

/-- The width of a cell: that of its widest line. -/
def cellWidth (s : String) : Nat := ((cellLines s).map cells).foldl max 0

/-- The width of a column with its cells. -/
def columnWidth (c : Column) (cells : List String) : Nat :=
  (cells.map cellWidth).foldl max (max c.least (cellWidth c.head))

/-- The signs of a line of a frame: its left end, what it is made of, what stands between
    columns, and its right end. -/
structure Rule where
  left : String
  stroke : Char
  cross : String
  right : String

/-- A line of a frame. -/
def Rule.line (r : Rule) (widths : List Nat) : String :=
  r.left
    ++ joined r.cross (widths.map fun w => String.ofList (List.replicate (w + 2) r.stroke))
    ++ r.right ++ "\n"

/-- A line of cells between bars. -/
def barred (bar : String) (cells : List String) : String :=
  bar ++ String.join (cells.map fun s => " " ++ s ++ " " ++ bar) ++ "\n"

/-- One line of a row: line `n` of every cell, empty where a cell has fewer lines. -/
def rowLine (columns : List Column) (widths : List Nat) (row : List String) (n : Nat) :
    List String :=
  (columns.zip (widths.zip row)).map fun (c, w, s) =>
    placed c.side w ((cellLines s)[n]?.getD "")

/-- A row with as many lines as its longest cell. -/
def rowText (bar : String) (columns : List Column) (widths : List Nat) (row : List String) :
    String :=
  let height := (row.map fun s => (cellLines s).length).foldl max 1
  String.join ((List.range height).map fun n => barred bar (rowLine columns widths row n))

/-- The cells of a column. -/
def cellsOf (rows : List (List String)) (n : Nat) : List String :=
  rows.filterMap fun row => row[n]?

/-- The widths of all columns. -/
def widthsOf (columns : List Column) (rows : List (List String)) : List Nat :=
  columns.mapIdx fun n c => columnWidth c (cellsOf rows n)

/-- A table with a title. -/
def table (title : String) (columns : List Column) (rows : List (List String)) : String :=
  let widths := widthsOf columns rows
  let width := totalCount (widths.map (· + 3)) + 1
  placed .middle width title ++ "\n"
    ++ (Rule.mk "┏" '━' "┳" "┓").line widths
    ++ rowText "┃" columns widths (columns.map (·.head))
    ++ (Rule.mk "┡" '━' "╇" "┩").line widths
    ++ String.join (rows.map (rowText "│" columns widths))
    ++ (Rule.mk "└" '─' "┴" "┘").line widths

end DiffGauge.Report
