import Lineage.Sequence.Distance

/-!
# What the rows of the edit distance hold

The table is computed row by row. The row after the items `as` holds, for every leading part of the
other sequence, the distance by the textbook recursion (`lastRow_eq`), where both parts are read
from the back: the last items are compared first. The distance is read off the end of the last row
(`editDistance_eq`), whichever sequence the rows run along.
-/

namespace Lineage.Sequence

variable {ι : Type} [DecidableEq ι]

/-- The edit distance by recursion on the first items. -/
def levenshtein : List ι → List ι → Nat
  | [], bs => bs.length
  | a :: as, [] => as.length + 1
  | a :: as, b :: bs =>
    min (min (levenshtein as (b :: bs) + 1) (levenshtein (a :: as) bs + 1))
      (levenshtein as bs + if a = b then 0 else 1)
termination_by as bs => as.length + bs.length

theorem levenshtein_nil (as : List ι) : levenshtein as [] = as.length := by
  cases as <;> simp [levenshtein]

theorem levenshtein_comm (as bs : List ι) : levenshtein as bs = levenshtein bs as := by
  induction as, bs using levenshtein.induct with
  | case1 bs => rw [levenshtein_nil, levenshtein]
  | case2 a as => rw [levenshtein_nil, levenshtein, List.length_cons]
  | case3 a as b bs ihdelete ihinsert ihreplace =>
    rw [levenshtein, levenshtein, ihdelete, ihinsert, ihreplace, Nat.min_comm (_ + 1) (_ + 1)]
    simp only [eq_comm]

theorem levenshtein_le (as bs : List ι) : levenshtein as bs ≤ max as.length bs.length := by
  induction as, bs using levenshtein.induct with
  | case1 bs => rw [levenshtein]; exact Nat.le_max_right ..
  | case2 a as => rw [levenshtein]; exact Nat.le_max_left ..
  | case3 a as b bs ihdelete ihinsert ihreplace =>
    rw [levenshtein]
    simp only [List.length_cons] at *
    split <;> omega

/-- Only equal sequences have no distance. -/
theorem levenshtein_eq_zero {as bs : List ι} : levenshtein as bs = 0 ↔ as = bs := by
  induction as, bs using levenshtein.induct with
  | case1 bs => rw [levenshtein, List.length_eq_zero_iff, eq_comm]
  | case2 a as => simp [levenshtein]
  | case3 a as b bs ihdelete ihinsert ihreplace =>
    rw [levenshtein, List.cons.injEq, ← ihreplace]
    by_cases hab : a = b
    · rw [if_pos hab, and_iff_right hab]
      omega
    · rw [if_neg hab, iff_false_right fun h => hab h.1]
      omega

/-! ### Rows -/

/-- The distances from `as` to `done` and to what it becomes as the items of a list are put in
front of it one by one. -/
def distances (as : List ι) : List ι → List ι → List Nat
  | done, [] => [levenshtein as done]
  | done, b :: bs => levenshtein as done :: distances as (b :: done) bs

theorem distances_eq_cons (as done bs : List ι) :
    distances as done bs = levenshtein as done :: (distances as done bs).tail := by
  cases bs <;> rfl

theorem distances_nil (done bs : List ι) :
    distances [] done bs = List.range' done.length (bs.length + 1) := by
  induction bs generalizing done with
  | nil => rw [distances, levenshtein]; rfl
  | cons b bs ih => rw [distances, ih, levenshtein, List.length_cons, List.range'_succ]; rfl

theorem getLastD_distances (as done bs : List ι) (n : Nat) :
    (distances as done bs).getLastD n = levenshtein as (bs.reverse ++ done) := by
  induction bs generalizing done n with
  | nil => rfl
  | cons b bs ih =>
    rw [distances, List.getLastD_cons, ih, List.reverse_cons, List.append_assoc,
      List.singleton_append]

/-- One entry after the other, a row turns into the next one. -/
theorem nextRow_distances (a : ι) (as done bs : List ι) :
    nextRow a bs (levenshtein as done) (distances as done bs).tail (levenshtein (a :: as) done)
      = (distances (a :: as) done bs).tail := by
  induction bs generalizing done with
  | nil => rfl
  | cons b bs ih =>
    rw [distances, distances, List.tail_cons, List.tail_cons, distances_eq_cons as,
      distances_eq_cons (a :: as), nextRow, ← ih, levenshtein]

theorem advanceRow_distances (a : ι) (as bs : List ι) :
    advanceRow bs (distances as [] bs) a = distances (a :: as) [] bs := by
  rw [distances_eq_cons as, distances_eq_cons (a :: as), ← nextRow_distances, advanceRow,
    levenshtein_nil, levenshtein_nil, List.length_cons]

/-- The last row holds the distances to all leading parts. -/
theorem lastRow_eq (as bs : List ι) : lastRow as bs = distances as.reverse [] bs := by
  have hfold : ∀ done, as.foldl (advanceRow bs) (distances done [] bs)
      = distances (as.reverse ++ done) [] bs := by
    induction as with
    | nil => exact fun _ => rfl
    | cons a as ih =>
      intro done
      rw [List.foldl_cons, advanceRow_distances, ih, List.reverse_cons, List.append_assoc,
        List.singleton_append]
  rw [lastRow, List.range_eq_range', ← List.length_nil, ← distances_nil, hfold, List.append_nil]

theorem editDistance_eq (as bs : List ι) :
    editDistance as bs = levenshtein as.reverse bs.reverse := by
  unfold editDistance
  split
  · rw [lastRow_eq, getLastD_distances, List.append_nil, levenshtein_comm]
  · rw [lastRow_eq, getLastD_distances, List.append_nil]

theorem editDistance_le (as bs : List ι) : editDistance as bs ≤ max as.length bs.length := by
  have hle := levenshtein_le as.reverse bs.reverse
  rwa [List.length_reverse, List.length_reverse, ← editDistance_eq] at hle

theorem editDistance_eq_zero {as bs : List ι} : editDistance as bs = 0 ↔ as = bs := by
  rw [editDistance_eq, levenshtein_eq_zero, List.reverse_inj]

end Lineage.Sequence
