import Lineage.Text.Width

/-!
Tables in boxes. The heading stands in a box with heavy lines, the rows in one with light lines; a
column is as wide as its widest cell, and a cell has a blank on either side.
-/

namespace Lineage.Console

/-- The side at which the cells of a column line up. -/
inductive Side where
  | left
  | right
  deriving DecidableEq, Repr

/-- A column: its heading, the side of its cells and the least width. -/
structure Column where
  heading : String
  side : Side := .left
  least : Nat := 0

/-- A table with one cell for each column in each row. -/
structure Table where
  columns : List Column
  rows : List (List String)

/-- The strokes of a horizontal line: its ends, its crossings and what is between them. -/
structure Strokes where
  first : String
  stroke : Char
  crossing : String
  last : String

namespace Table

/-- The line over the heading. -/
def top : Strokes := ⟨"┏", '━', "┳", "┓"⟩

/-- The line under the heading. -/
def middle : Strokes := ⟨"┡", '━', "╇", "┩"⟩

/-- The line under the rows. -/
def bottom : Strokes := ⟨"└", '─', "┴", "┘"⟩

/-- The width of a column whose cells are given. -/
def columnWidth (c : Column) (cells : List String) : Nat :=
  (c.heading :: cells).foldl (fun n s => max n (Text.width s)) c.least

/-- The widths of the columns. -/
def widths (columns : List Column) (rows : List (List String)) : List Nat :=
  match columns with
  | [] => []
  | c :: cs => columnWidth c (rows.filterMap (·.head?)) :: widths cs (rows.map (·.drop 1))

/-- A horizontal line. -/
def rule (s : Strokes) (ws : List Nat) : String :=
  s.first ++ s.crossing.intercalate (ws.map fun w => String.ofList (List.replicate (w + 2) s.stroke))
    ++ s.last

/-- A cell filled up with blanks to the width of its column. -/
def cell (side : Side) (w : Nat) (s : String) : String :=
  let blanks := String.ofList (List.replicate (w - Text.width s) ' ')
  match side with
  | .left => " " ++ s ++ blanks ++ " "
  | .right => " " ++ blanks ++ s ++ " "

/-- A line of cells between bars. -/
def cells (bar : String) (columns : List Column) (ws : List Nat) (texts : List String) : String :=
  let filled := (columns.zip (ws.zip texts)).map fun (c, w, s) => cell c.side w s
  bar ++ bar.intercalate filled ++ bar

/-- The lines of a table. -/
def lines (t : Table) : List String :=
  let ws := widths t.columns t.rows
  [rule top ws, cells "┃" t.columns ws (t.columns.map (·.heading)), rule middle ws]
    ++ t.rows.map (cells "│" t.columns ws) ++ [rule bottom ws]

end Table

end Lineage.Console
