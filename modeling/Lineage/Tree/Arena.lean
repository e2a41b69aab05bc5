import Std.Data.TreeMap
import Lineage.Tree.Basic

/-!
Trees written as a table. Each row is a node that names its children by their rows, so a node that
occurs twice is one row named twice. `Arena.trees` reads a table, `Tree.toArena` writes one.
-/

namespace Lineage

/-- One row of a table of nodes. -/
structure ArenaRow where
  label : String
  value : String
  lines : LineRange
  children : List Nat
  deriving DecidableEq, Repr

namespace ArenaRow

/-- The tree of a row, given the trees of the rows before it; `none` if a child has no earlier row. -/
def tree? (row : ArenaRow) (earlier : Array Tree) : Option Tree :=
  (row.children.mapM fun i => earlier[i]?).map
    (Tree.node earlier.size row.label row.value row.lines)

end ArenaRow

/-- The trees of all rows in order, or `none` if a row names a child that does not come before it. -/
def treesOfArena? (rows : List ArenaRow) : Option (Array Tree) :=
  rows.foldlM (fun trees row => (row.tree? trees).map trees.push) #[]

/-- A table of nodes under construction: the rows, and the row of each node already written. -/
structure ArenaTable where
  rows : Array ArenaRow
  rowOf : Std.TreeMap Nat Nat

namespace ArenaTable

/-- The table without rows. -/
def empty : ArenaTable := ⟨#[], {}⟩

/-- Writes a node whose children are already written, unless it has a row. -/
def add (table : ArenaTable) (t : Tree) : ArenaTable :=
  if table.rowOf.contains t.id then table
  else
    let children := t.children.map fun c => table.rowOf.getD c.id 0
    ⟨table.rows.push ⟨t.label, t.value, t.lines, children⟩,
      table.rowOf.insert t.id table.rows.size⟩

/-- The row of a node, if it is in the table. -/
def row? (table : ArenaTable) (t : Tree) : Option Nat :=
  table.rowOf[t.id]?

end ArenaTable

/-- The table of a tree: its distinct nodes in the order in which the walk with children first
meets them. -/
def Tree.toArena (t : Tree) : ArenaTable :=
  t.postorder.foldl ArenaTable.add .empty

end Lineage
