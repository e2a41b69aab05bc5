import Lineage.Sequence.Blocks
import Mathlib.Data.List.Sort

/-!
# The longest common run

A scan goes through the items of one sequence and keeps, for the places of each item in the other
one, how long the common run is that ends there (`runUpTo`). A row is computed from the row before,
because a run that ends at two places is longer by one than the run that ends at the places before
them (`runsEnding_eq`). Among the runs that the scan meets it takes the first longest one
(`scanRuns_eq`, `exists_foldl_longer`).

## Main statements

- `Block.Longest`: a block is a common run inside a window, none there is longer, and of those that
  are as long it starts first. There is only one such block (`Block.Longest.unique`).
- `longestRun_longest`: **what the scan of a window finds is that block.**
-/

namespace Lineage.Sequence

variable {ι : Type}

/-- Both sequences have an item at their places, and it is the same. -/
def Same (as bs : List ι) (i j : Nat) : Prop := i < as.length ∧ as[i]? = bs[j]?

instance [DecidableEq ι] (as bs : List ι) (i j : Nat) : Decidable (Same as bs i j) :=
  inferInstanceAs (Decidable (_ ∧ _))

/-- The next `n` items of both sequences are the same. -/
def CommonRun (as bs : List ι) (i j n : Nat) : Prop := ∀ k < n, Same as bs (i + k) (j + k)

/-- The items from `alo` to `ahi` of one sequence and from `blo` to `bhi` of another. -/
structure Window where
  alo : Nat
  ahi : Nat
  blo : Nat
  bhi : Nat
  deriving DecidableEq, Repr

/-- A window lies inside two sequences. -/
structure Window.Inside (as bs : List ι) (w : Window) : Prop where
  alo_le_ahi : w.alo ≤ w.ahi
  ahi_le : w.ahi ≤ as.length
  blo_le_bhi : w.blo ≤ w.bhi
  bhi_le : w.bhi ≤ bs.length

/-- A block is a common run inside a window. -/
structure Block.Within (as bs : List ι) (w : Window) (b : Block) : Prop where
  alo_le : w.alo ≤ b.left
  le_ahi : b.left + b.size ≤ w.ahi
  blo_le : w.blo ≤ b.right
  le_bhi : b.right + b.size ≤ w.bhi
  run : CommonRun as bs b.left b.right b.size

/-- No common run inside the window is longer than the block, and of those that are as long it
starts first in the first sequence, and then in the second. -/
structure Block.Longest (as bs : List ι) (w : Window) (b : Block) : Prop where
  within : b.Within as bs w
  size_le : ∀ c : Block, c.Within as bs w → c.size ≤ b.size
  first : ∀ c : Block, c.Within as bs w → c.size = b.size →
    b.left < c.left ∨ b.left = c.left ∧ b.right ≤ c.right

variable {as bs : List ι} {w : Window} {i j n : Nat}

/-- Only one block is the longest one of a window. -/
theorem Block.Longest.unique {b c : Block} (hb : b.Longest as bs w) (hc : c.Longest as bs w) :
    b = c := by
  have hsize : b.size = c.size := (hc.size_le b hb.within).antisymm (hb.size_le c hc.within)
  have hfirst := hb.first c hc.within hsize.symm
  have hfirst' := hc.first b hb.within hsize
  obtain ⟨left, right, size⟩ := b
  obtain ⟨left', right', size'⟩ := c
  simp only [Block.mk.injEq] at *
  omega

theorem Same.lt_right (h : Same as bs i j) : j < bs.length := by
  have hitem := h.2.symm.trans (List.getElem?_eq_getElem h.1)
  exact (List.getElem?_eq_some_iff.mp hitem).1

theorem CommonRun.append {m : Nat} (h : CommonRun as bs i j m)
    (h' : CommonRun as bs (i + m) (j + m) n) : CommonRun as bs i j (m + n) := by
  intro k hk
  by_cases hm : k < m
  · exact h k hm
  · have hsame := h' (k - m) (by omega)
    rwa [Nat.add_assoc, Nat.add_assoc, Nat.add_sub_of_le (by omega)] at hsame

theorem commonRun_one : CommonRun as bs i j 1 ↔ Same as bs i j := by
  constructor
  · exact fun h => h 0 Nat.one_pos
  · intro h k hk
    obtain rfl : k = 0 := by omega
    exact h

/-! ### Runs by their ends -/

variable [DecidableEq ι] {alo ahi blo bhi : Nat}

/-- The length of the longest common run that starts in the window from `alo` and `blo` on and ends
before the given places. -/
def runUpTo (as bs : List ι) (alo blo : Nat) : Nat → Nat → Nat
  | i + 1, j + 1 =>
    if alo ≤ i ∧ blo ≤ j ∧ Same as bs i j then runUpTo as bs alo blo i j + 1 else 0
  | _, _ => 0

theorem runUpTo_succ (h : alo ≤ i ∧ blo ≤ j ∧ Same as bs i j) :
    runUpTo as bs alo blo (i + 1) (j + 1) = runUpTo as bs alo blo i j + 1 := if_pos h

theorem runUpTo_eq_zero (h : ¬ (alo ≤ i ∧ blo ≤ j ∧ Same as bs i j)) :
    runUpTo as bs alo blo (i + 1) (j + 1) = 0 := if_neg h

/-- A run starts in the window. -/
theorem runUpTo_start (h : 0 < runUpTo as bs alo blo i j) :
    alo + runUpTo as bs alo blo i j ≤ i ∧ blo + runUpTo as bs alo blo i j ≤ j := by
  induction i generalizing j with
  | zero => exact absurd h (Nat.lt_irrefl 0)
  | succ i ih =>
    cases j with
    | zero => exact absurd h (Nat.lt_irrefl 0)
    | succ j =>
      by_cases hsame : alo ≤ i ∧ blo ≤ j ∧ Same as bs i j
      · have hstart := ih (j := j)
        rw [runUpTo_succ hsame]
        omega
      · rw [runUpTo_eq_zero hsame] at h
        exact absurd h (Nat.lt_irrefl 0)

theorem runUpTo_le (as bs : List ι) (alo blo i j : Nat) :
    runUpTo as bs alo blo i j ≤ i ∧ runUpTo as bs alo blo i j ≤ j := by
  rcases Nat.eq_zero_or_pos (runUpTo as bs alo blo i j) with hzero | hpos
  · rw [hzero]
    exact ⟨Nat.zero_le _, Nat.zero_le _⟩
  · obtain ⟨hi, hj⟩ := runUpTo_start hpos
    exact ⟨Nat.le_of_add_left_le hi, Nat.le_of_add_left_le hj⟩

theorem runUpTo_run (i j : Nat) : CommonRun as bs (i - runUpTo as bs alo blo i j)
    (j - runUpTo as bs alo blo i j) (runUpTo as bs alo blo i j) := by
  induction i generalizing j with
  | zero => exact fun _ hk => absurd hk (Nat.not_lt_zero _)
  | succ i ih =>
    cases j with
    | zero => exact fun _ hk => absurd hk (Nat.not_lt_zero _)
    | succ j =>
      by_cases hsame : alo ≤ i ∧ blo ≤ j ∧ Same as bs i j
      · obtain ⟨hi, hj⟩ := runUpTo_le as bs alo blo i j
        rw [runUpTo_succ hsame, Nat.add_sub_add_right, Nat.add_sub_add_right]
        -- the run to the places before, with the items at these places behind it
        refine (ih j).append (commonRun_one.mpr ?_)
        rw [Nat.sub_add_cancel hi, Nat.sub_add_cancel hj]
        exact hsame.2.2
      · rw [runUpTo_eq_zero hsame]
        exact fun _ hk => absurd hk (Nat.not_lt_zero _)

/-- No common run that ends at the places is longer. -/
theorem le_runUpTo (hi : alo ≤ i) (hj : blo ≤ j) (h : CommonRun as bs i j n) :
    n ≤ runUpTo as bs alo blo (i + n) (j + n) := by
  induction n with
  | zero => exact Nat.zero_le _
  | succ n ih =>
    have hsame : alo ≤ i + n ∧ blo ≤ j + n ∧ Same as bs (i + n) (j + n) :=
      ⟨by omega, by omega, h n (Nat.lt_succ_self n)⟩
    rw [← Nat.add_assoc, ← Nat.add_assoc, runUpTo_succ hsame]
    exact Nat.succ_le_succ (ih fun k hk => h k (Nat.lt_succ_of_lt hk))

/-- The longest common run of a window that ends with the items at two places. -/
def runTo (as bs : List ι) (alo blo i j : Nat) : Block :=
  let n := runUpTo as bs alo blo (i + 1) (j + 1)
  ⟨i + 1 - n, j + 1 - n, n⟩

theorem runTo_end (as bs : List ι) (alo blo i j : Nat) :
    (runTo as bs alo blo i j).left + (runTo as bs alo blo i j).size = i + 1 ∧
      (runTo as bs alo blo i j).right + (runTo as bs alo blo i j).size = j + 1 := by
  obtain ⟨hi, hj⟩ := runUpTo_le as bs alo blo (i + 1) (j + 1)
  exact ⟨Nat.sub_add_cancel hi, Nat.sub_add_cancel hj⟩

/-- A run is the longest one to its end if it has its length. -/
theorem eq_runTo {b : Block} (hi : b.left + b.size = i + 1) (hj : b.right + b.size = j + 1)
    (hsize : b.size = (runTo as bs alo blo i j).size) : b = runTo as bs alo blo i j := by
  obtain ⟨hleft, hright⟩ := runTo_end as bs alo blo i j
  obtain ⟨left, right, size⟩ := b
  simp only at hi hj hsize
  rw [show left = (runTo as bs alo blo i j).left by omega,
    show right = (runTo as bs alo blo i j).right by omega, hsize]

theorem runTo_within (hi : w.alo ≤ i ∧ i < w.ahi) (hj : w.blo ≤ j ∧ j < w.bhi)
    (hsame : Same as bs i j) :
    0 < (runTo as bs w.alo w.blo i j).size ∧ (runTo as bs w.alo w.blo i j).Within as bs w := by
  have hpos : 0 < (runTo as bs w.alo w.blo i j).size := by
    simp only [runTo, runUpTo_succ ⟨hi.1, hj.1, hsame⟩]
    exact Nat.succ_pos _
  have hstart := runUpTo_start hpos
  have hend := runTo_end as bs w.alo w.blo i j
  refine ⟨hpos, ⟨?_, by omega, ?_, by omega, runUpTo_run (i + 1) (j + 1)⟩⟩ <;>
  · simp only [runTo]
    omega

/-- A run of the window is no longer than the longest one to its end. -/
theorem Block.Within.exists_runTo {b : Block} (h : b.Within as bs w) (hpos : 0 < b.size) :
    ∃ i j, (w.alo ≤ i ∧ i < w.ahi) ∧ (w.blo ≤ j ∧ j < w.bhi) ∧ Same as bs i j ∧
      b.left + b.size = i + 1 ∧ b.right + b.size = j + 1 ∧
      b.size ≤ (runTo as bs w.alo w.blo i j).size := by
  obtain ⟨hleft, hahi, hright, hbhi, hrun⟩ := h
  obtain ⟨n, hn⟩ : ∃ n, b.size = n + 1 := ⟨b.size - 1, by omega⟩
  refine ⟨b.left + n, b.right + n, by omega, by omega, hrun n (by omega), by omega, by omega, ?_⟩
  have hle := le_runUpTo hleft hright hrun
  rw [hn, ← Nat.add_assoc, ← Nat.add_assoc] at hle
  rw [hn]
  exact hle

/-! ### Places -/

/-- The places in a part of the second sequence that hold the item at `i` of the first one. -/
def placesIn (as bs : List ι) (blo bhi i : Nat) : List Nat :=
  (List.range' blo (bhi - blo)).filter fun j => Same as bs i j

theorem mem_placesIn : j ∈ placesIn as bs blo bhi i ↔ (blo ≤ j ∧ j < bhi) ∧ Same as bs i j := by
  rw [placesIn, List.mem_filter, List.mem_range'_1, decide_eq_true_iff]
  exact and_congr_left' (by omega)

theorem sorted_placesIn : (placesIn as bs blo bhi i).Pairwise (· < ·) :=
  List.Pairwise.filter _ List.pairwise_lt_range'

theorem dropWhile_eq_filter {α : Type} {p : α → Bool} {l : List α}
    (h : l.Pairwise fun a b => p b → p a) : l.dropWhile p = l.filter fun a => !p a := by
  induction l with
  | nil => rfl
  | cons a l ih =>
    obtain ⟨hfirst, hrest⟩ := List.pairwise_cons.mp h
    by_cases ha : p a
    · rw [List.dropWhile_cons_of_pos ha, List.filter_cons_of_neg (by simp [ha]), ih hrest]
    · have hall : ∀ b ∈ a :: l, !p b := by
        intro b hb
        rcases List.mem_cons.mp hb with rfl | hb
        · simpa using ha
        · simpa using fun hpb => ha (hfirst b hb hpb)
      rw [List.dropWhile_cons_of_neg ha, List.filter_eq_self.mpr hall]

theorem takeWhile_eq_filter {α : Type} {p : α → Bool} {l : List α}
    (h : l.Pairwise fun a b => p b → p a) : l.takeWhile p = l.filter p := by
  induction l with
  | nil => rfl
  | cons a l ih =>
    obtain ⟨hfirst, hrest⟩ := List.pairwise_cons.mp h
    by_cases ha : p a
    · rw [List.takeWhile_cons_of_pos ha, List.filter_cons_of_pos ha, ih hrest]
    · have hnone : ∀ b ∈ a :: l, ¬ p b := by
        intro b hb
        rcases List.mem_cons.mp hb with rfl | hb
        · exact ha
        · exact fun hpb => ha (hfirst b hb hpb)
      rw [List.takeWhile_cons_of_neg ha, List.filter_eq_nil_iff.mpr hnone]

/-- The places that are found are those of the items that are the same. -/
theorem occurrences_eq (as bs : List ι) :
    occurrences as bs = (List.range as.length).map (placesIn as bs 0 bs.length) := by
  refine List.ext_getElem (by simp [occurrences]) fun i hi _ => ?_
  have hlt : i < as.length := by simpa [occurrences] using hi
  simp only [occurrences, List.getElem_map, List.getElem_range]
  refine List.Pairwise.eq_of_mem_iff (r := (· < ·)) ?_ sorted_placesIn fun j => ?_
  · have hsorted : bs.zipIdx.Pairwise fun p q => p.2 < q.2 := by
      rw [← List.pairwise_map (f := Prod.snd), List.zipIdx_map_snd]
      exact List.pairwise_lt_range'
    refine hsorted.filterMap _ fun p q hpq j hj k hk => ?_
    obtain ⟨-, rfl⟩ := Option.ite_some_none_eq_some.mp hj
    obtain ⟨-, rfl⟩ := Option.ite_some_none_eq_some.mp hk
    exact hpq
  · simp only [List.mem_filterMap, List.mem_zipIdx_iff_getElem?, mem_placesIn, Same, Prod.exists,
      Option.ite_some_none_eq_some, List.getElem?_eq_getElem hlt]
    constructor
    · rintro ⟨b, k, hb, rfl, rfl⟩
      exact ⟨⟨Nat.zero_le _, (List.getElem?_eq_some_iff.mp hb).1⟩, hlt, hb.symm⟩
    · rintro ⟨-, -, hb⟩
      exact ⟨_, j, hb.symm, rfl, rfl⟩

/-- The rows that a scan of a window goes through. -/
theorem rows_eq (hahi : ahi ≤ as.length) (hbhi : bhi ≤ bs.length) :
    (((occurrences as bs).toArray.extract alo ahi).toList.map fun places =>
        (places.dropWhile (· < blo)).takeWhile (· < bhi))
      = (List.range' alo (ahi - alo)).map (placesIn as bs blo bhi) := by
  have hrows : ((occurrences as bs).toArray.extract alo ahi).toList
      = (List.range' alo (ahi - alo)).map (placesIn as bs 0 bs.length) := by
    rw [occurrences_eq, Array.toList_extract, List.extract_eq_take_drop, ← List.map_drop,
      ← List.map_take, List.range_eq_range', List.drop_range', List.take_range'_of_length_ge
      (Nat.sub_le_sub_right hahi alo), Nat.zero_add, Nat.mul_one]
  rw [hrows, List.map_map]
  refine List.map_congr_left fun i _ => ?_
  have hsorted : (placesIn as bs 0 bs.length i).Pairwise (· < ·) := sorted_placesIn
  have hdrop : (placesIn as bs 0 bs.length i).dropWhile (· < blo)
      = (placesIn as bs 0 bs.length i).filter fun j => !decide (j < blo) :=
    dropWhile_eq_filter (hsorted.imp fun hjk => by simp; omega)
  rw [Function.comp_apply, hdrop,
    takeWhile_eq_filter ((hsorted.filter _).imp fun hjk => by simp; omega)]
  refine List.Pairwise.eq_of_mem_iff (r := (· < ·)) ((hsorted.filter _).filter _) sorted_placesIn
    fun j => ?_
  simp only [List.mem_filter, mem_placesIn, decide_eq_true_iff, Bool.not_eq_true',
    decide_eq_false_iff_not]
  constructor
  · rintro ⟨⟨⟨-, hsame⟩, hblo⟩, hj⟩
    exact ⟨⟨by omega, hj⟩, hsame⟩
  · rintro ⟨⟨hblo, hj⟩, hsame⟩
    exact ⟨⟨⟨by omega, hsame⟩, by omega⟩, hj⟩

/-! ### The scan -/

section Row
variable {r : Nat → Nat} {places before : List Nat}

/-- What is dropped ends too early for a place, and for all later ones. -/
theorem dropWhile_runs (hbefore : before.Pairwise (· < ·)) (r : Nat → Nat) (j : Nat) :
    (before.map fun k => (k, r (k + 1))).dropWhile (fun run => run.1 + 1 < j)
      = (before.filter fun k => j ≤ k + 1).map fun k => (k, r (k + 1)) := by
  have hkept : (before.filter fun k => j ≤ k + 1) = before.filter fun k => !decide (k + 1 < j) :=
    List.filter_congr fun k _ => by rw [← decide_not, decide_eq_decide, Nat.not_lt]
  rw [hkept, List.dropWhile_map, ← dropWhile_eq_filter (hbefore.imp fun hab => by simp; omega)]
  rfl

/-- If none of the runs that are left ends too early, the first one is the one that is extended. -/
theorem extended_eq {kept : List Nat} (hsorted : kept.Pairwise (· < ·))
    (hkept : ∀ k ∈ kept, j ≤ k + 1) (hr : r j ≠ 0 → ∃ k ∈ kept, k + 1 = j) :
    (match kept.map fun k => (k, r (k + 1)) with
      | (place, length) :: _ => if place + 1 = j then length + 1 else 1
      | [] => 1) = r j + 1 := by
  cases kept with
  | nil =>
    have hzero : r j = 0 := by
      by_contra hne
      obtain ⟨k, hk, -⟩ := hr hne
      exact List.not_mem_nil hk
    rw [hzero]
    rfl
  | cons k later =>
    simp only [List.map_cons]
    split
    · rename_i hend
      rw [hend]
    · rename_i hend
      have hk := hkept k List.mem_cons_self
      have hzero : r j = 0 := by
        by_contra hne
        obtain ⟨k', hk', hend'⟩ := hr hne
        rcases List.mem_cons.mp hk' with rfl | hlater
        · exact hend hend'
        · have hlt := (List.pairwise_cons.mp hsorted).1 k' hlater
          omega
      rw [hzero]

/-- The runs up to the places of a row come from those up to the places of the row before. `r` holds
how long the runs are that end before a place. -/
theorem runsEnding_eq (hplaces : places.Pairwise (· < ·)) (hbefore : before.Pairwise (· < ·))
    (hr : ∀ j ∈ places, r j ≠ 0 → ∃ k ∈ before, k + 1 = j) :
    runsEnding places (before.map fun k => (k, r (k + 1))) = places.map fun j => (j, r j + 1) := by
  induction places generalizing before with
  | nil => rfl
  | cons j places ih =>
    obtain ⟨hfirst, hrest⟩ := List.pairwise_cons.mp hplaces
    have hsorted := hbefore.filter fun k => j ≤ k + 1
    have hmem : ∀ k, k ∈ (before.filter fun k => j ≤ k + 1) ↔ k ∈ before ∧ j ≤ k + 1 := by
      simp [List.mem_filter]
    have hnext := ih hrest hsorted fun j' hj' hne => by
      obtain ⟨k, hk, rfl⟩ := hr j' (List.mem_cons_of_mem _ hj') hne
      exact ⟨k, (hmem k).mpr ⟨hk, (hfirst _ hj').le⟩, rfl⟩
    have hextended := extended_eq hsorted (fun k hk => ((hmem k).mp hk).2) fun hne => by
      obtain ⟨k, hk, rfl⟩ := hr j List.mem_cons_self hne
      exact ⟨k, (hmem k).mpr ⟨hk, le_rfl⟩, rfl⟩
    rw [runsEnding, dropWhile_runs hbefore, hnext]
    exact congrArg (fun length => (j, length) :: _) hextended

end Row

/-- The longer one of two runs, the first one of two equally long. -/
def longer (best b : Block) : Block := if best.size < b.size then b else best

theorem improve_eq (places : List Nat) (best : Block) :
    improve i best (places.map fun j => (j, runUpTo as bs alo blo (i + 1) (j + 1)))
      = (places.map (runTo as bs alo blo i)).foldl longer best := by
  rw [improve, List.foldl_map, List.foldl_map]
  rfl

/-- The runs that a scan meets, in its order. -/
def runsIn (as bs : List ι) (w : Window) (i n : Nat) : List Block :=
  (List.range' i n).flatMap fun i => (placesIn as bs w.blo w.bhi i).map (runTo as bs w.alo w.blo i)

/-- The runs that the scan of a window meets. -/
def Window.runs (as bs : List ι) (w : Window) : List Block := runsIn as bs w w.alo (w.ahi - w.alo)

theorem scanRuns_eq {before : List Nat} {best : Block} (hi : w.alo ≤ i)
    (hbefore : before.Pairwise (· < ·))
    (hlast : ∀ k, k < w.bhi → runUpTo as bs w.alo w.blo i (k + 1) ≠ 0 → k ∈ before) :
    scanRuns ((List.range' i n).map (placesIn as bs w.blo w.bhi)) i
        (before.map fun k => (k, runUpTo as bs w.alo w.blo i (k + 1))) best
      = (runsIn as bs w i n).foldl longer best := by
  induction n generalizing i before best with
  | zero => rfl
  | succ n ih =>
    have hrow : runsEnding (placesIn as bs w.blo w.bhi i)
        (before.map fun k => (k, runUpTo as bs w.alo w.blo i (k + 1)))
          = (placesIn as bs w.blo w.bhi i).map fun j =>
              (j, runUpTo as bs w.alo w.blo (i + 1) (j + 1)) := by
      rw [runsEnding_eq sorted_placesIn hbefore]
      · refine List.map_congr_left fun j hj => ?_
        obtain ⟨⟨hblo, -⟩, hsame⟩ := mem_placesIn.mp hj
        rw [runUpTo_succ ⟨hi, hblo, hsame⟩]
      · intro j hj hne
        have hstart := runUpTo_start (Nat.pos_of_ne_zero hne)
        obtain ⟨k, rfl⟩ : ∃ k, j = k + 1 := ⟨j - 1, by omega⟩
        exact ⟨k, hlast k (by have := (mem_placesIn.mp hj).1; omega) hne, rfl⟩
    rw [List.range'_succ, List.map_cons, scanRuns, hrow, improve_eq, runsIn, List.range'_succ,
      List.flatMap_cons, List.foldl_append]
    refine ih (by omega) sorted_placesIn fun k hk hne => ?_
    have hsame : w.alo ≤ i ∧ w.blo ≤ k ∧ Same as bs i k := by
      by_contra hnot
      exact hne (runUpTo_eq_zero hnot)
    exact mem_placesIn.mpr ⟨⟨hsame.2.1, hk⟩, hsame.2.2⟩

theorem longestRun_eq (hahi : w.ahi ≤ as.length) (hbhi : w.bhi ≤ bs.length) :
    longestRun (occurrences as bs).toArray w.alo w.ahi w.blo w.bhi
      = (w.runs as bs).foldl longer ⟨w.alo, w.blo, 0⟩ := by
  rw [longestRun, rows_eq hahi hbhi]
  have hnone : ([] : List Nat).Pairwise (· < ·) := .nil
  refine scanRuns_eq le_rfl hnone fun k _ hne => ?_
  have hstart := runUpTo_start (Nat.pos_of_ne_zero hne)
  omega

/-! ### The first longest one -/

/-- All before the chosen run are shorter, and none behind it is longer. -/
theorem exists_foldl_longer (best : Block) (runs : List Block) : ∃ before after,
    best :: runs = before ++ runs.foldl longer best :: after ∧
      (∀ b ∈ before, b.size < (runs.foldl longer best).size) ∧
      ∀ b ∈ after, b.size ≤ (runs.foldl longer best).size := by
  induction runs generalizing best with
  | nil => exact ⟨[], [], rfl, by simp, by simp⟩
  | cons c runs ih =>
    obtain ⟨before, after, hsplit, hshort, hlong⟩ := ih (longer best c)
    rw [List.foldl_cons]
    generalize runs.foldl longer (longer best c) = chosen at *
    unfold longer at hsplit
    split at hsplit
    · -- `c` is longer and takes the place of what was best
      rename_i hlt
      have hle : c.size ≤ chosen.size := by
        have hc : c ∈ before ++ chosen :: after := hsplit ▸ List.mem_cons_self
        rcases List.mem_append.mp hc with hc | hc
        · exact (hshort c hc).le
        · rcases List.mem_cons.mp hc with rfl | hc
          · exact le_rfl
          · exact hlong c hc
      refine ⟨best :: before, after, by rw [hsplit, List.cons_append], ?_, hlong⟩
      exact List.forall_mem_cons.mpr ⟨by omega, hshort⟩
    · -- what was best stays, and is chosen in the end or not
      rename_i hge
      cases before with
      | nil =>
        obtain ⟨rfl, rfl⟩ := List.cons.inj hsplit
        exact ⟨[], c :: runs, rfl, by simp, List.forall_mem_cons.mpr ⟨by omega, hlong⟩⟩
      | cons b before =>
        obtain ⟨rfl, rfl⟩ := List.cons.inj hsplit
        have hbest := hshort best List.mem_cons_self
        refine ⟨best :: c :: before, after, rfl, ?_, hlong⟩
        simp only [List.forall_mem_cons] at hshort ⊢
        exact ⟨hbest, by omega, hshort.2⟩

theorem mem_runs {b : Block} : b ∈ w.runs as bs ↔ ∃ i j, (w.alo ≤ i ∧ i < w.ahi) ∧
    (w.blo ≤ j ∧ j < w.bhi) ∧ Same as bs i j ∧ runTo as bs w.alo w.blo i j = b := by
  simp only [Window.runs, runsIn, List.mem_flatMap, List.mem_range'_1, List.mem_map, mem_placesIn]
  constructor
  · rintro ⟨i, hi, j, ⟨hj, hsame⟩, rfl⟩
    exact ⟨i, j, by omega, hj, hsame, rfl⟩
  · rintro ⟨i, j, hi, hj, hsame, rfl⟩
    exact ⟨i, by omega, j, ⟨hj, hsame⟩, rfl⟩

/-- A scan meets the runs in the order of their ends. -/
theorem pairwise_runs (as bs : List ι) (w : Window) :
    (w.runs as bs).Pairwise fun b c => b.left + b.size < c.left + c.size ∨
      b.left + b.size = c.left + c.size ∧ b.right + b.size < c.right + c.size := by
  refine List.pairwise_flatMap.mpr ⟨fun i _ => List.pairwise_map.mpr ?_, ?_⟩
  · refine sorted_placesIn.imp fun {j k} hjk => ?_
    have hj := runTo_end as bs w.alo w.blo i j
    have hk := runTo_end as bs w.alo w.blo i k
    omega
  · refine List.Pairwise.imp (fun {i i'} hlt b hb c hc => ?_) List.pairwise_lt_range'
    obtain ⟨j, -, rfl⟩ := List.mem_map.mp hb
    obtain ⟨k, -, rfl⟩ := List.mem_map.mp hc
    have hj := runTo_end as bs w.alo w.blo i j
    have hk := runTo_end as bs w.alo w.blo i' k
    omega

theorem Window.within_of_mem_runs {b : Block} (h : b ∈ w.runs as bs) :
    0 < b.size ∧ b.Within as bs w := by
  obtain ⟨i, j, hi, hj, hsame, rfl⟩ := mem_runs.mp h
  exact runTo_within hi hj hsame

/-- The scan meets every common run, unless it meets a longer one with the same end. -/
theorem Window.exists_mem_runs {c : Block} (hc : c.Within as bs w) (hpos : 0 < c.size) :
    ∃ d ∈ w.runs as bs, c.size ≤ d.size ∧ (c.size = d.size → c = d) := by
  obtain ⟨i, j, hi, hj, hsame, hleft, hright, hle⟩ := hc.exists_runTo hpos
  exact ⟨_, mem_runs.mpr ⟨i, j, hi, hj, hsame, rfl⟩, hle, eq_runTo hleft hright⟩

theorem Block.longest_of_no_runs (hw : w.Inside as bs) (hempty : w.runs as bs = []) :
    (⟨w.alo, w.blo, 0⟩ : Block).Longest as bs w where
  within := ⟨le_rfl, hw.alo_le_ahi, le_rfl, hw.blo_le_bhi,
    fun _ hk => absurd hk (Nat.not_lt_zero _)⟩
  size_le c hc := by
    by_contra hlt
    obtain ⟨d, hd, -⟩ := Window.exists_mem_runs hc (Nat.lt_of_not_le hlt)
    exact List.not_mem_nil (hempty ▸ hd)
  first c hc _ := by
    have hleft := hc.alo_le
    have hright := hc.blo_le
    dsimp only
    omega

/-- The first longest run that a scan meets is the longest one of the window. -/
theorem Block.longest_of_split {b : Block} {before after : List Block}
    (hsplit : w.runs as bs = before ++ b :: after) (hshort : ∀ c ∈ before, c.size < b.size)
    (hlong : ∀ c ∈ after, c.size ≤ b.size) : b.Longest as bs w := by
  obtain ⟨hpos, hwithin⟩ := Window.within_of_mem_runs (hsplit ▸ List.mem_append_cons_self)
  have hordered := hsplit ▸ pairwise_runs as bs w
  have hsize : ∀ c ∈ w.runs as bs, c.size ≤ b.size := by
    rw [hsplit]
    exact List.forall_mem_append.mpr
      ⟨fun c hc => (hshort c hc).le, List.forall_mem_cons.mpr ⟨le_rfl, hlong⟩⟩
  refine ⟨hwithin, fun c hc => ?_, fun c hc heq => ?_⟩
  · by_cases hcpos : 0 < c.size
    · obtain ⟨d, hd, hle, -⟩ := Window.exists_mem_runs hc hcpos
      exact hle.trans (hsize d hd)
    · omega
  · -- a run that is as long has been met itself, and only after `b`
    obtain ⟨d, hd, hle, hcd⟩ := Window.exists_mem_runs hc (heq ▸ hpos)
    obtain rfl := hcd (hle.antisymm (heq ▸ hsize d hd))
    rcases List.mem_append.mp (hsplit ▸ hd) with hd | hd
    · exact absurd heq (hshort c hd).ne
    · rcases List.mem_cons.mp hd with rfl | hd
      · exact .inr ⟨rfl, le_rfl⟩
      · have hend := (List.pairwise_cons.mp (List.pairwise_append.mp hordered).2.1).1 c hd
        omega

/-- **The scan of a window finds its longest common run**, and of several the one that starts
first. -/
theorem longestRun_longest (hw : w.Inside as bs) :
    (longestRun (occurrences as bs).toArray w.alo w.ahi w.blo w.bhi).Longest as bs w := by
  rw [longestRun_eq hw.ahi_le hw.bhi_le]
  obtain ⟨before, after, hsplit, hshort, hlong⟩ :=
    exists_foldl_longer ⟨w.alo, w.blo, 0⟩ (w.runs as bs)
  -- the block that the scan starts from is empty, it is kept only if there is no run at all
  cases before with
  | nil =>
    obtain ⟨hstart, hafter⟩ := List.cons.inj hsplit
    rw [← hstart] at hlong ⊢
    refine Block.longest_of_no_runs hw (List.eq_nil_iff_forall_not_mem.mpr fun b hb => ?_)
    have hle := hlong b (hafter ▸ hb)
    have hpos := (Window.within_of_mem_runs hb).1
    dsimp only at hle
    omega
  | cons start before =>
    exact Block.longest_of_split (List.cons.inj hsplit).2
      (fun c hc => hshort c (List.mem_cons_of_mem _ hc)) hlong

end Lineage.Sequence
