import Lineage.Proofs.Sequence.Runs
import Mathlib.Data.List.Nodup
import Mathlib.Order.Bounds.Basic

/-!
# Common subsequences

The longest common subsequence of two sequences, by the recursion of the textbooks
(`isGreatest_longestCommon`), and as a bound: places that rise in both sequences and hold the same
items give a common subsequence, so there are at most that many (`Pairing.length_le`).
-/

namespace Lineage.Sequence

variable {ι : Type} {as bs : List ι}

/-! ### Pairs of places -/

/-- Pairs of places that hold the same items and rise in both sequences. -/
structure Pairing (as bs : List ι) (pairs : List (Nat × Nat)) : Prop where
  same : ∀ p ∈ pairs, Same as bs p.1 p.2
  rising : pairs.Pairwise fun p q => p.1 < q.1 ∧ p.2 < q.2

theorem filterMap_range (as : List ι) : (List.range as.length).filterMap (as[·]?) = as := by
  induction as with
  | nil => rfl
  | cons a as ih =>
    rw [List.length_cons, List.range_succ_eq_map, List.filterMap_cons, List.filterMap_map]
    exact congrArg (a :: ·) ih

/-- The items at rising places are a subsequence. -/
theorem filterMap_sublist {places : List Nat} (hrising : places.Pairwise (· < ·))
    (hlt : ∀ i ∈ places, i < as.length) : (places.filterMap (as[·]?)).Sublist as := by
  -- the places are some of all places, in the same order
  have hplaces : places.Sublist (List.range as.length) :=
    List.sublist_of_subperm_of_pairwise
      (List.subperm_of_subset (hrising.imp Nat.ne_of_lt)
        fun i hi => List.mem_range.mpr (hlt i hi))
      hrising List.pairwise_lt_range
  have hitems := hplaces.filterMap (as[·]?)
  rwa [filterMap_range] at hitems

theorem Pairing.exists_sublist {pairs : List (Nat × Nat)} (h : Pairing as bs pairs) :
    ∃ l : List ι, l.Sublist as ∧ l.Sublist bs ∧ l.length = pairs.length := by
  have hleft := filterMap_sublist (List.pairwise_map.mpr (h.rising.imp And.left))
    (List.forall_mem_map.mpr fun p hp => (h.same p hp).1)
  have hright := filterMap_sublist (List.pairwise_map.mpr (h.rising.imp And.right))
    (List.forall_mem_map.mpr fun p hp => (h.same p hp).lt_right)
  rw [List.filterMap_map] at hleft hright
  have hsame : pairs.filterMap ((bs[·]?) ∘ Prod.snd) = pairs.filterMap ((as[·]?) ∘ Prod.fst) :=
    List.filterMap_congr fun p hp => (h.same p hp).2.symm
  refine ⟨_, hleft, hsame ▸ hright, List.filterMap_length_eq_length.mpr fun p hp => ?_⟩
  rw [Function.comp_apply, List.getElem?_eq_getElem (h.same p hp).1]
  rfl

/-! ### The longest common subsequence -/

variable [DecidableEq ι]

/-- The length of a longest common subsequence, from the first items on. -/
def longestCommon : List ι → List ι → Nat
  | [], _ => 0
  | _ :: _, [] => 0
  | a :: as, b :: bs =>
    if a = b then longestCommon as bs + 1
    else max (longestCommon as (b :: bs)) (longestCommon (a :: as) bs)

theorem exists_longestCommon (as bs : List ι) :
    ∃ l : List ι, l.Sublist as ∧ l.Sublist bs ∧ l.length = longestCommon as bs := by
  induction as, bs using longestCommon.induct with
  | case1 bs => exact ⟨[], List.nil_sublist _, List.nil_sublist _, by rw [longestCommon]; rfl⟩
  | case2 a as => exact ⟨[], List.nil_sublist _, List.nil_sublist _, by rw [longestCommon]; rfl⟩
  | case3 as b bs ih =>
    obtain ⟨l, has, hbs, hlength⟩ := ih
    rw [longestCommon, if_pos rfl, ← hlength]
    exact ⟨b :: l, has.cons_cons b, hbs.cons_cons b, rfl⟩
  | case4 a as b bs hne ihleft ihright =>
    obtain ⟨l, has, hbs, hlength⟩ := ihleft
    obtain ⟨l', has', hbs', hlength'⟩ := ihright
    rw [longestCommon, if_neg hne]
    rcases Nat.le_total (longestCommon as (b :: bs)) (longestCommon (a :: as) bs) with hle | hle
    · exact ⟨l', has', hbs'.cons b, by rw [Nat.max_eq_right hle, hlength']⟩
    · exact ⟨l, has.cons a, hbs, by rw [Nat.max_eq_left hle, hlength]⟩

theorem length_le_longestCommon {l : List ι} (has : l.Sublist as) (hbs : l.Sublist bs) :
    l.length ≤ longestCommon as bs := by
  induction as, bs using longestCommon.induct generalizing l with
  | case1 bs => rw [List.sublist_nil.mp has]; exact Nat.zero_le _
  | case2 a as => rw [List.sublist_nil.mp hbs]; exact Nat.zero_le _
  | case3 as b bs ih =>
    have htail := ih has.tail hbs.tail
    rw [List.length_tail] at htail
    rw [longestCommon, if_pos rfl]
    exact Nat.le_add_of_sub_le htail
  | case4 a as b bs hne ihleft ihright =>
    rw [longestCommon, if_neg hne]
    -- the subsequence cannot begin with both of the first items
    cases has with
    | cons _ has => exact (ihleft has hbs).trans (Nat.le_max_left _ _)
    | cons_cons _ has =>
      cases hbs with
      | cons _ hbs => exact (ihright (has.cons_cons a) hbs).trans (Nat.le_max_right _ _)
      | cons_cons => exact absurd rfl hne

/-- The recursion gives the length of a longest common subsequence. -/
theorem isGreatest_longestCommon (as bs : List ι) :
    IsGreatest {n | ∃ l : List ι, l.Sublist as ∧ l.Sublist bs ∧ l.length = n}
      (longestCommon as bs) :=
  ⟨exists_longestCommon as bs, fun _ ⟨_, has, hbs, hlength⟩ =>
    hlength ▸ length_le_longestCommon has hbs⟩

theorem Pairing.length_le {pairs : List (Nat × Nat)} (h : Pairing as bs pairs) :
    pairs.length ≤ longestCommon as bs :=
  (isGreatest_longestCommon as bs).2 h.exists_sublist

end Lineage.Sequence
