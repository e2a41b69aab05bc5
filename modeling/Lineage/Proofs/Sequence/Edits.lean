import Lineage.Proofs.Sequence.Distance
import Mathlib.Order.Bounds.Basic

/-!
# The edit distance counts edits

An edit inserts, deletes or substitutes one item anywhere in a sequence, and a script is a chain of
edits. The recursion of the textbooks gives the length of a shortest script (`isLeast_levenshtein`):
no edit brings a sequence nearer to another one by more than one (`Edit.levenshtein_le`), and the
recursion can be turned into a script step by step (`script_levenshtein`).

What turns one sequence into another turns the reversed ones into each other, too, so it does not
matter from which end a table is filled: the distance that is read off the last row is the least
number of edits (`editDistance_isLeast`).
-/

namespace Lineage.Sequence

variable {ι : Type}

/-- A single item is inserted, deleted or substituted between `before` and `after`. -/
inductive Edit : List ι → List ι → Prop where
  | insert (before after : List ι) (b : ι) : Edit (before ++ after) (before ++ b :: after)
  | delete (before after : List ι) (a : ι) : Edit (before ++ a :: after) (before ++ after)
  | substitute (before after : List ι) (a b : ι) :
      Edit (before ++ a :: after) (before ++ b :: after)

/-- A chain of edits from one sequence to another, with their number. -/
inductive Script : Nat → List ι → List ι → Prop where
  | done (as : List ι) : Script 0 as as
  | edit {n : Nat} {as bs cs : List ι} : Edit as bs → Script n bs cs → Script (n + 1) as cs

/-! ### Scripts from scripts -/

variable {n : Nat} {as bs : List ι}

theorem Edit.cons (x : ι) (h : Edit as bs) : Edit (x :: as) (x :: bs) := by
  cases h with
  | insert before after b => exact .insert (x :: before) after b
  | delete before after a => exact .delete (x :: before) after a
  | substitute before after a b => exact .substitute (x :: before) after a b

theorem Script.cons (x : ι) (h : Script n as bs) : Script n (x :: as) (x :: bs) := by
  induction h with
  | done as => exact .done _
  | edit hedit _ ih => exact .edit (hedit.cons x) ih

theorem Edit.reverse (h : Edit as bs) : Edit as.reverse bs.reverse := by
  cases h with
  | insert before after b =>
    rw [List.reverse_append, List.reverse_append, List.reverse_cons, List.append_assoc]
    exact .insert after.reverse before.reverse b
  | delete before after a =>
    rw [List.reverse_append, List.reverse_append, List.reverse_cons, List.append_assoc]
    exact .delete after.reverse before.reverse a
  | substitute before after a b =>
    rw [List.reverse_append, List.reverse_append, List.reverse_cons, List.reverse_cons,
      List.append_assoc, List.append_assoc]
    exact .substitute after.reverse before.reverse a b

theorem Script.reverse (h : Script n as bs) : Script n as.reverse bs.reverse := by
  induction h with
  | done as => exact .done _
  | edit hedit _ ih => exact .edit hedit.reverse ih

theorem script_reverse_iff : Script n as.reverse bs.reverse ↔ Script n as bs := by
  refine ⟨fun h => ?_, Script.reverse⟩
  rw [← as.reverse_reverse, ← bs.reverse_reverse]
  exact h.reverse

/-- The items are inserted one by one. -/
theorem script_nil (bs : List ι) : Script bs.length [] bs := by
  induction bs with
  | nil => exact .done _
  | cons b bs ih => exact .edit (.insert [] [] b) (ih.cons b)

/-- The items are deleted one by one. -/
theorem script_to_nil (as : List ι) : Script as.length as [] := by
  induction as with
  | nil => exact .done _
  | cons a as ih => exact .edit (.delete [] as a) ih

variable [DecidableEq ι]

/-- The recursion takes an edit at the front wherever it counts one. -/
theorem script_levenshtein (as bs : List ι) : Script (levenshtein as bs) as bs := by
  induction as, bs using levenshtein.induct with
  | case1 bs =>
    rw [levenshtein]
    exact script_nil bs
  | case2 a as =>
    rw [levenshtein]
    exact script_to_nil (a :: as)
  | case3 a as b bs ihdelete ihinsert ihreplace =>
    have hleast : levenshtein (a :: as) (b :: bs) = levenshtein as (b :: bs) + 1 ∨
        levenshtein (a :: as) (b :: bs) = levenshtein (a :: as) bs + 1 ∨
        levenshtein (a :: as) (b :: bs) = levenshtein as bs + if a = b then 0 else 1 := by
      rw [levenshtein]
      omega
    rcases hleast with hdelete | hinsert | hreplace
    · rw [hdelete]
      exact .edit (.delete [] as a) ihdelete
    · rw [hinsert]
      exact .edit (.insert [] (a :: as) b) (ihinsert.cons b)
    · rw [hreplace]
      split
      · rename_i hab
        rw [hab]
        exact ihreplace.cons b
      · exact .edit (.substitute [] as a b) (ihreplace.cons b)

/-! ### No script is shorter -/

theorem levenshtein_cons_cons (a b : ι) (as bs : List ι) : levenshtein (a :: as) (b :: bs) =
    min (min (levenshtein as (b :: bs) + 1) (levenshtein (a :: as) bs + 1))
      (levenshtein as bs + if a = b then 0 else 1) := by
  rw [levenshtein]

theorem levenshtein_cons_left (a : ι) (as bs : List ι) :
    levenshtein (a :: as) bs ≤ levenshtein as bs + 1 := by
  cases bs with
  | nil => rw [levenshtein_nil, levenshtein_nil, List.length_cons]
  | cons b bs =>
    rw [levenshtein]
    omega

theorem levenshtein_cons_right (as : List ι) (b : ι) (bs : List ι) :
    levenshtein as (b :: bs) ≤ levenshtein as bs + 1 := by
  rw [levenshtein_comm as, levenshtein_comm as]
  exact levenshtein_cons_left b bs as

theorem levenshtein_tail_left (a : ι) (as bs : List ι) :
    levenshtein as bs ≤ levenshtein (a :: as) bs + 1 := by
  induction bs with
  | nil =>
    rw [levenshtein_nil, levenshtein_nil, List.length_cons]
    omega
  | cons b bs ih =>
    have hright := levenshtein_cons_right as b bs
    rw [levenshtein_cons_cons]
    omega

theorem levenshtein_head_left (a b : ι) (as bs : List ι) :
    levenshtein (a :: as) bs ≤ levenshtein (b :: as) bs + 1 := by
  induction bs with
  | nil =>
    rw [levenshtein_nil, levenshtein_nil, List.length_cons, List.length_cons]
    omega
  | cons c bs ih =>
    -- deleting costs the same, inserting one more at most by induction, replacing one more at most
    rw [levenshtein_cons_cons, levenshtein_cons_cons]
    split <;> split <;> omega

/-- Sequences that are nearly as far from every third one stay so behind a common item. -/
theorem levenshtein_le_cons (h : ∀ cs, levenshtein as cs ≤ levenshtein bs cs + 1) (x : ι)
    (cs : List ι) : levenshtein (x :: as) cs ≤ levenshtein (x :: bs) cs + 1 := by
  induction cs with
  | nil =>
    have hnil := h []
    rw [levenshtein_nil, levenshtein_nil] at hnil ⊢
    exact Nat.succ_le_succ hnil
  | cons c cs ih =>
    have hdelete := h (c :: cs)
    have hreplace := h cs
    rw [levenshtein_cons_cons, levenshtein_cons_cons]
    omega

theorem levenshtein_le_append (h : ∀ cs, levenshtein as cs ≤ levenshtein bs cs + 1)
    (before cs : List ι) :
    levenshtein (before ++ as) cs ≤ levenshtein (before ++ bs) cs + 1 := by
  induction before generalizing cs with
  | nil => exact h cs
  | cons x before ih => exact levenshtein_le_cons ih x cs

/-- No edit brings a sequence nearer to another one by more than one. -/
theorem Edit.levenshtein_le (h : Edit as bs) (cs : List ι) :
    levenshtein as cs ≤ levenshtein bs cs + 1 := by
  cases h with
  | insert before after b => exact levenshtein_le_append (levenshtein_tail_left b after) before cs
  | delete before after a => exact levenshtein_le_append (levenshtein_cons_left a after) before cs
  | substitute before after a b =>
    exact levenshtein_le_append (levenshtein_head_left a b after) before cs

theorem Script.levenshtein_le (h : Script n as bs) : levenshtein as bs ≤ n := by
  induction h with
  | done as => exact (levenshtein_eq_zero.mpr rfl).le
  | edit hedit _ ih => exact (hedit.levenshtein_le _).trans (Nat.succ_le_succ ih)

/-- The recursion gives the length of a shortest script. -/
theorem isLeast_levenshtein (as bs : List ι) :
    IsLeast {n | Script n as bs} (levenshtein as bs) :=
  ⟨script_levenshtein as bs, fun _ h => h.levenshtein_le⟩

theorem levenshtein_reverse (as bs : List ι) :
    levenshtein as.reverse bs.reverse = levenshtein as bs := by
  have hreversed := isLeast_levenshtein as.reverse bs.reverse
  simp only [script_reverse_iff] at hreversed
  exact hreversed.unique (isLeast_levenshtein as bs)

/-- **The edit distance is the least number of edits**, and it is what the recursion on the first
items gives. -/
theorem editDistance_isLeast (as bs : List ι) :
    IsLeast {n | Script n as bs} (editDistance as bs) ∧
      editDistance as bs = levenshtein as bs := by
  have heq : editDistance as bs = levenshtein as bs := by
    rw [editDistance_eq, levenshtein_reverse]
  exact ⟨heq ▸ isLeast_levenshtein as bs, heq⟩

example : editDistance "kitten".toList "sitting".toList = 3 := by decide +kernel

end Lineage.Sequence
