import Lineage.Score

/-!
Edit distance between two sequences, and the similarity that it gives. The distance is computed row
by row: row `i` holds the distances from the first `i` items of one sequence to every leading part
of the other.
-/

namespace Lineage.Sequence

variable {ι : Type} [DecidableEq ι]

/-- The rest of a row, left to right. `above` are the entries of the row before from the current
column on, `corner` the entry above and to the left, `left` the entry to the left. -/
def nextRow (a : ι) : List ι → Nat → List Nat → Nat → List Nat
  | b :: bs, corner, up :: above, left =>
    let cost := min (min (up + 1) (left + 1)) (corner + if a = b then 0 else 1)
    cost :: nextRow a bs up above cost
  | _, _, _, _ => []

/-- The row after `row` for one more item of the longer sequence. -/
def advanceRow (bs : List ι) (row : List Nat) (a : ι) : List Nat :=
  match row with
  | [] => []
  | corner :: above => (corner + 1) :: nextRow a bs corner above (corner + 1)

/-- The last row of the table for `as` against `bs`. -/
def lastRow (as bs : List ι) : List Nat :=
  as.foldl (advanceRow bs) (List.range (bs.length + 1))

/-- The least number of insertions, deletions and substitutions of single items that turn one
sequence into the other. The rows run along the shorter sequence. -/
def editDistance (as bs : List ι) : Nat :=
  if as.length < bs.length then (lastRow bs as).getLastD 0 else (lastRow as bs).getLastD 0

/-- One less the edit distance as a share of the longer length; two empty sequences are equal. -/
def similarity {α : Type} [Score α] (as bs : List ι) : α :=
  let longest := max as.length bs.length
  if longest = 0 then Score.one
  else Score.one - Score.ratio (editDistance as bs) longest

end Lineage.Sequence
