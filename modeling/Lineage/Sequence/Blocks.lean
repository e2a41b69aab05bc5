import Lineage.Score
import Lineage.Sequence.Total

/-!
Matching blocks of two sequences: the longest common run is taken, and the parts before and after it
are treated in the same way. `fragmentRatio` is the share of a fragment that the blocks cover.
-/

namespace Lineage.Sequence

variable {ι : Type} [DecidableEq ι]

/-- A run of `size` equal items at `left` in one sequence and at `right` in the other. -/
structure Block where
  left : Nat
  right : Nat
  size : Nat
  deriving DecidableEq, Repr

/-- For each item of `as` the places where `bs` has an equal one, in rising order. -/
def occurrences (as bs : List ι) : List (List Nat) :=
  as.map fun a => (bs.zipIdx).filterMap fun (b, j) => if a = b then some j else none

/-- The lengths of the common runs that end at an item, by the place where they end in the other
sequence. `before` holds those that end one item earlier, both lists rise in their places. -/
def runsEnding : List Nat → List (Nat × Nat) → List (Nat × Nat)
  | [], _ => []
  | j :: js, before =>
    let before := before.dropWhile fun run => run.1 + 1 < j
    let length := match before with
      | (place, length) :: _ => if place + 1 = j then length + 1 else 1
      | [] => 1
    (j, length) :: runsEnding js before

/-- The better of a block and the runs that end at item `i`: the longer one wins, the earlier one of
two equally long. -/
def improve (i : Nat) (best : Block) (runs : List (Nat × Nat)) : Block :=
  runs.foldl (fun best (j, length) =>
    if best.size < length then ⟨i + 1 - length, j + 1 - length, length⟩ else best) best

/-- Scans the items from `i` on. `rows` are their occurrences inside the window of the other
sequence. -/
def scanRuns : List (List Nat) → Nat → List (Nat × Nat) → Block → Block
  | [], _, _, best => best
  | places :: rows, i, before, best =>
    let runs := runsEnding places before
    scanRuns rows (i + 1) runs (improve i best runs)

/-- The longest common run of the windows from `alo` to `ahi` and from `blo` to `bhi`; of several,
the one that starts first in the first sequence, and then in the second. -/
def longestRun (occ : Array (List Nat)) (alo ahi blo bhi : Nat) : Block :=
  let rows := (occ.extract alo ahi).toList.map fun places =>
    (places.dropWhile (· < blo)).takeWhile (· < bhi)
  scanRuns rows alo [] ⟨alo, blo, 0⟩

/-- The blocks of two windows in rising order. Each level of the recursion uses up an item of the
first window, so `fuel` may be its length. -/
def blocksIn (occ : Array (List Nat)) : Nat → Nat → Nat → Nat → Nat → List Block
  | 0, _, _, _, _ => []
  | fuel + 1, alo, ahi, blo, bhi =>
    let best := longestRun occ alo ahi blo bhi
    if best.size = 0 then []
    else
      (if alo < best.left ∧ blo < best.right then
        blocksIn occ fuel alo best.left blo best.right else [])
      ++ best ::
      (if best.left + best.size < ahi ∧ best.right + best.size < bhi then
        blocksIn occ fuel (best.left + best.size) ahi (best.right + best.size) bhi else [])

/-- The matching blocks of two sequences, in order. -/
def matchingBlocks (as bs : List ι) : List Block :=
  blocksIn (occurrences as bs).toArray as.length 0 as.length 0 bs.length

/-- The share of `fragment` that the matching blocks find in `whole`; nothing of an empty one. -/
def fragmentRatio {α : Type} [Score α] (fragment whole : List ι) : α :=
  if fragment.isEmpty then Score.zero
  else Score.ratio (total ((matchingBlocks fragment whole).map (·.size))) fragment.length

end Lineage.Sequence
