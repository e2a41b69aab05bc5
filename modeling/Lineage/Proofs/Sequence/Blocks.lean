import Lineage.Proofs.Matching.Exact
import Lineage.Proofs.Sequence.Common
import Lineage.Proofs.Sequence.Pieces

/-!
# Matching blocks

The longest common run of a window splits it into the window before it and the window after it, and
the blocks of a window are those of the two parts with the run between them (`blocksOf_succ`). So
they are common runs that follow each other in both sequences (`blocksOf_spec`), and their places
pair equal items (`pairing_matchingBlocks`).

A loop over a queue of windows finds the same blocks in another order (`exists_drains`). Sorting
them and joining those that touch changes none of the pairs (`pairs_reportedBlocks`).

## Main statements

- `fragmentRatio_le_longestCommon`: **the ratio never overstates** what is found of a fragment.
-/

namespace Lineage.Sequence

variable {ι : Type} {as bs : List ι} {w : Window} {b c : Block}

/-! ### Pairs of blocks -/

/-- The pairs of places that a block covers. -/
def Block.pairs (b : Block) : List (Nat × Nat) :=
  (List.range b.size).map fun k => (b.left + k, b.right + k)

/-- The pairs of places that blocks cover. -/
def pairs (blocks : List Block) : List (Nat × Nat) := blocks.flatMap Block.pairs

/-- A block ends before another one starts, in both sequences. -/
def Block.Before (b c : Block) : Prop := b.left + b.size ≤ c.left ∧ b.right + b.size ≤ c.right

theorem length_pairs (blocks : List Block) :
    (pairs blocks).length = total (blocks.map (·.size)) := by
  rw [pairs, length_flatMap]
  congr 2
  funext b
  rw [Block.pairs, List.length_map, List.length_range]

theorem pairs_append (blocks blocks' : List Block) :
    pairs (blocks ++ blocks') = pairs blocks ++ pairs blocks' := List.flatMap_append

/-- Common runs one after the other pair equal items at rising places. -/
theorem pairing_pairs {blocks : List Block}
    (hrun : ∀ b ∈ blocks, CommonRun as bs b.left b.right b.size)
    (hbefore : blocks.Pairwise Block.Before) : Pairing as bs (pairs blocks) := by
  constructor
  · intro p hp
    obtain ⟨b, hb, hp⟩ := List.mem_flatMap.mp hp
    obtain ⟨k, hk, rfl⟩ := List.mem_map.mp hp
    exact hrun b hb k (List.mem_range.mp hk)
  · refine List.pairwise_flatMap.mpr ⟨fun b _ => List.pairwise_map.mpr ?_, ?_⟩
    · exact List.pairwise_lt_range.imp fun hkl => ⟨by dsimp only; omega, by dsimp only; omega⟩
    · refine hbefore.imp fun {b c} hbc p hp q hq => ?_
      obtain ⟨k, hk, rfl⟩ := List.mem_map.mp hp
      obtain ⟨l, -, rfl⟩ := List.mem_map.mp hq
      have hlt := List.mem_range.mp hk
      unfold Block.Before at hbc
      dsimp only
      omega

/-! ### The parts of a window -/

namespace Window

/-- All items of two sequences. -/
def full (as bs : List ι) : Window := ⟨0, as.length, 0, bs.length⟩

/-- The part of a window before a block. -/
def before (w : Window) (b : Block) : Window := ⟨w.alo, b.left, w.blo, b.right⟩

/-- The part of a window after a block. -/
def after (w : Window) (b : Block) : Window := ⟨b.left + b.size, w.ahi, b.right + b.size, w.bhi⟩

theorem full_inside (as bs : List ι) : (full as bs).Inside as bs :=
  ⟨Nat.zero_le _, Nat.le_refl _, Nat.zero_le _, Nat.le_refl _⟩

theorem Inside.before (hw : w.Inside as bs) (hb : b.Within as bs w) :
    (w.before b).Inside as bs :=
  ⟨hb.alo_le, (Nat.le_of_add_right_le hb.le_ahi).trans hw.ahi_le, hb.blo_le,
    (Nat.le_of_add_right_le hb.le_bhi).trans hw.bhi_le⟩

theorem Inside.after (hw : w.Inside as bs) (hb : b.Within as bs w) : (w.after b).Inside as bs :=
  ⟨hb.le_ahi, hw.ahi_le, hb.le_bhi, hw.bhi_le⟩

end Window

namespace Block.Within

theorem of_before (hb : b.Within as bs w) (hc : c.Within as bs (w.before b)) :
    c.Within as bs w ∧ c.Before b :=
  ⟨⟨hc.alo_le, hc.le_ahi.trans (Nat.le_of_add_right_le hb.le_ahi), hc.blo_le,
    hc.le_bhi.trans (Nat.le_of_add_right_le hb.le_bhi), hc.run⟩, hc.le_ahi, hc.le_bhi⟩

theorem of_after (hb : b.Within as bs w) (hc : c.Within as bs (w.after b)) :
    c.Within as bs w ∧ b.Before c :=
  ⟨⟨hb.alo_le.trans (Nat.le_of_add_right_le hc.alo_le), hc.le_ahi,
    hb.blo_le.trans (Nat.le_of_add_right_le hc.blo_le), hc.le_bhi, hc.run⟩, hc.alo_le, hc.blo_le⟩

/-- A window with an empty part holds no items of a run. -/
theorem size_eq_zero (hb : b.Within as bs w) (hempty : ¬ (w.alo < w.ahi ∧ w.blo < w.bhi)) :
    b.size = 0 := by
  obtain ⟨halo, hahi, hblo, hbhi, -⟩ := hb
  omega

end Block.Within

/-! ### The blocks of a window -/

variable [DecidableEq ι] {fuel : Nat}

/-- The longest common run of a window. -/
def best (as bs : List ι) (w : Window) : Block :=
  longestRun (occurrences as bs).toArray w.alo w.ahi w.blo w.bhi

/-- The blocks of a window. -/
def blocksOf (as bs : List ι) (fuel : Nat) (w : Window) : List Block :=
  blocksIn (occurrences as bs).toArray fuel w.alo w.ahi w.blo w.bhi

theorem matchingBlocks_eq (as bs : List ι) :
    matchingBlocks as bs = blocksOf as bs as.length (Window.full as bs) := rfl

theorem blocksOf_eq_nil (hempty : (best as bs w).size = 0) : blocksOf as bs fuel w = [] := by
  cases fuel with
  | zero => rfl
  | succ fuel => exact if_pos hempty

theorem blocksOf_of_empty (hw : w.Inside as bs) (hempty : ¬ (w.alo < w.ahi ∧ w.blo < w.bhi)) :
    blocksOf as bs fuel w = [] :=
  blocksOf_eq_nil ((longestRun_longest hw).within.size_eq_zero hempty)

/-- The longest common run stands between the blocks before it and those after it. -/
theorem blocksOf_succ (hw : w.Inside as bs) (hsize : (best as bs w).size ≠ 0) :
    blocksOf as bs (fuel + 1) w = blocksOf as bs fuel (w.before (best as bs w)) ++
      best as bs w :: blocksOf as bs fuel (w.after (best as bs w)) := by
  have hwithin : (best as bs w).Within as bs w := (longestRun_longest hw).within
  have hstep : blocksOf as bs (fuel + 1) w =
      (if w.alo < (best as bs w).left ∧ w.blo < (best as bs w).right then
        blocksOf as bs fuel (w.before (best as bs w)) else []) ++ best as bs w ::
      (if (best as bs w).left + (best as bs w).size < w.ahi ∧
          (best as bs w).right + (best as bs w).size < w.bhi then
        blocksOf as bs fuel (w.after (best as bs w)) else []) := if_neg hsize
  rw [hstep]
  congr 2
  · exact ite_eq_left_iff.mpr fun hempty => (blocksOf_of_empty (hw.before hwithin) hempty).symm
  · exact ite_eq_left_iff.mpr fun hempty => (blocksOf_of_empty (hw.after hwithin) hempty).symm

/-- The blocks of a window are common runs inside it that follow each other. -/
theorem blocksOf_spec (hw : w.Inside as bs) (fuel : Nat) :
    (∀ b ∈ blocksOf as bs fuel w, 0 < b.size ∧ b.Within as bs w) ∧
      (blocksOf as bs fuel w).Pairwise Block.Before := by
  induction fuel generalizing w with
  | zero => exact ⟨nofun, .nil⟩
  | succ fuel ih =>
    by_cases hsize : (best as bs w).size = 0
    · rw [blocksOf_eq_nil hsize]
      exact ⟨nofun, .nil⟩
    have hbest : (best as bs w).Within as bs w := (longestRun_longest hw).within
    obtain ⟨hbefore, hbefores⟩ := ih (hw.before hbest)
    obtain ⟨hafter, hafters⟩ := ih (hw.after hbest)
    rw [blocksOf_succ hw hsize]
    constructor
    · refine List.forall_mem_append.mpr ⟨fun b hb => ?_, List.forall_mem_cons.mpr ⟨?_, ?_⟩⟩
      · exact ⟨(hbefore b hb).1, (hbest.of_before (hbefore b hb).2).1⟩
      · exact ⟨Nat.pos_of_ne_zero hsize, hbest⟩
      · exact fun b hb => ⟨(hafter b hb).1, (hbest.of_after (hafter b hb).2).1⟩
    · refine List.pairwise_append.mpr ⟨hbefores, List.pairwise_cons.mpr ⟨?_, hafters⟩, ?_⟩
      · exact fun c hc => (hbest.of_after (hafter c hc).2).2
      · -- what stands before the run ends where it starts, and the rest starts where it ends
        intro b hb c hc
        have hend := (hbest.of_before (hbefore b hb).2).2
        rcases List.mem_cons.mp hc with rfl | hc
        · exact hend
        · have hstart := (hbest.of_after (hafter c hc).2).2
          unfold Block.Before at *
          omega

theorem pairing_matchingBlocks (as bs : List ι) : Pairing as bs (pairs (matchingBlocks as bs)) := by
  obtain ⟨hwithin, hbefore⟩ := blocksOf_spec (Window.full_inside as bs) as.length
  exact pairing_pairs (fun b hb => (hwithin b hb).2.run) hbefore

/-! ### How much is matched -/

/-- The blocks cover as many items as any common run has. -/
theorem le_length_pairs {i j n : Nat} (h : CommonRun as bs i j n) :
    n ≤ (pairs (matchingBlocks as bs)).length := by
  cases n with
  | zero => exact Nat.zero_le _
  | succ n =>
    have hlast := h n (Nat.lt_succ_self n)
    have hi := hlast.1
    have hj := hlast.lt_right
    have hle : n + 1 ≤ (best as bs (Window.full as bs)).size :=
      (longestRun_longest (Window.full_inside as bs)).size_le ⟨i, j, n + 1⟩
        ⟨Nat.zero_le _, hi, Nat.zero_le _, hj, h⟩
    obtain ⟨fuel, hfuel⟩ : ∃ fuel, as.length = fuel + 1 := ⟨as.length - 1, by omega⟩
    have hne : (best as bs (Window.full as bs)).size ≠ 0 := by omega
    rw [matchingBlocks_eq, hfuel, blocksOf_succ (Window.full_inside as bs) hne, length_pairs,
      List.map_append, total_append, List.map_cons, total]
    omega

theorem length_pairs_pos_iff :
    0 < (pairs (matchingBlocks as bs)).length ↔ ∃ a ∈ as, a ∈ bs := by
  constructor
  · intro hpos
    obtain ⟨p, hp⟩ := List.exists_mem_of_length_pos hpos
    obtain ⟨hlt, heq⟩ := (pairing_matchingBlocks as bs).same p hp
    refine ⟨as[p.1], List.getElem_mem hlt, ?_⟩
    exact List.mem_of_getElem? (heq.symm.trans (List.getElem?_eq_getElem hlt))
  · rintro ⟨a, has, hbs⟩
    obtain ⟨i, hi⟩ := List.getElem?_of_mem has
    obtain ⟨j, hj⟩ := List.getElem?_of_mem hbs
    have hsame : Same as bs i j := ⟨(List.getElem?_eq_some_iff.mp hi).1, hi.trans hj.symm⟩
    exact le_length_pairs (commonRun_one.mpr hsame)

theorem length_pairs_le (as bs : List ι) :
    (pairs (matchingBlocks as bs)).length ≤ as.length := by
  obtain ⟨l, hl, -, hlength⟩ := (pairing_matchingBlocks as bs).exists_sublist
  exact hlength ▸ hl.length_le

/-- All items of a sequence are matched if it stands in one piece in the other one. -/
theorem length_pairs_of_contiguous (h : as <:+: bs) :
    (pairs (matchingBlocks as bs)).length = as.length := by
  refine (length_pairs_le as bs).antisymm ?_
  obtain ⟨j, -, hitems⟩ := List.infix_iff_getElem?.mp h
  refine le_length_pairs (i := 0) (j := j) fun k hk => ?_
  rw [Nat.zero_add, Nat.add_comm]
  exact ⟨hk, (List.getElem?_eq_getElem hk).trans (hitems k hk).symm⟩

/-! ### The queue of windows -/

/-- A window, unless one of its parts is empty. -/
def Window.queued (w : Window) : List Window := if w.alo < w.ahi ∧ w.blo < w.bhi then [w] else []

/-- Takes one window after the other from a queue, and puts the parts before and after its longest
common run back to the front. No result if there are windows left in the end. -/
def drain (as bs : List ι) : Nat → List Window → Option (List Block)
  | _, [] => some []
  | 0, _ :: _ => none
  | fuel + 1, w :: queue =>
    let best := best as bs w
    if best.size = 0 then drain as bs fuel queue
    else (drain as bs fuel ((w.after best).queued ++ (w.before best).queued ++ queue)).map
      (best :: ·)

/-- Windows at the front of a queue give these blocks in at most so many steps. -/
def Drains (as bs : List ι) (windows : List Window) (cost : Nat) (blocks : List Block) : Prop :=
  ∀ fuel queue, ∃ spare, fuel ≤ spare ∧
    drain as bs (fuel + cost) (windows ++ queue) = (drain as bs spare queue).map (blocks ++ ·)

theorem drains_nil (cost : Nat) : Drains as bs [] cost [] :=
  fun fuel queue => ⟨fuel + cost, Nat.le_add_right _ _, by simp⟩

namespace Drains
variable {windows windows' : List Window} {cost cost' : Nat} {blocks blocks' : List Block}

theorem mono (h : Drains as bs windows cost blocks) (hle : cost ≤ cost') :
    Drains as bs windows cost' blocks := by
  intro fuel queue
  obtain ⟨spare, hspare, hdrain⟩ := h (fuel + (cost' - cost)) queue
  rw [Nat.add_assoc, Nat.sub_add_cancel hle] at hdrain
  exact ⟨spare, by omega, hdrain⟩

theorem append (h : Drains as bs windows cost blocks) (h' : Drains as bs windows' cost' blocks') :
    Drains as bs (windows ++ windows') (cost' + cost) (blocks ++ blocks') := by
  intro fuel queue
  obtain ⟨spare, hspare, hfirst⟩ := h (fuel + cost') (windows' ++ queue)
  obtain ⟨spare', hspare', hrest⟩ := h' (spare - cost') queue
  refine ⟨spare', by omega, ?_⟩
  rw [Nat.sub_add_cancel (by omega)] at hrest
  rw [← Nat.add_assoc, List.append_assoc, hfirst, hrest, Option.map_map]
  congr 1
  funext rest
  exact (List.append_assoc ..).symm

/-- A window without common runs is taken from the queue. -/
theorem skip (hsize : (best as bs w).size = 0) : Drains as bs [w] 1 [] := by
  intro fuel queue
  refine ⟨fuel, le_rfl, ?_⟩
  simp [drain, hsize]

/-- A window is taken from the queue, and its parts after it. -/
theorem take (hsize : (best as bs w).size ≠ 0)
    (h : Drains as bs ((w.after (best as bs w)).queued ++ (w.before (best as bs w)).queued) cost
      blocks) : Drains as bs [w] (cost + 1) (best as bs w :: blocks) := by
  intro fuel queue
  obtain ⟨spare, hspare, hdrain⟩ := h fuel queue
  refine ⟨spare, hspare, ?_⟩
  rw [← Nat.add_assoc, List.singleton_append, drain, if_neg hsize, hdrain, Option.map_map]
  rfl

/-- A window that is not put into the queue has no blocks. -/
theorem queued {m : Nat} (hw : w.Inside as bs) (h : ∃ blocks : List Block,
    blocks.Perm (blocksOf as bs m w) ∧ Drains as bs [w] cost blocks) :
    ∃ blocks : List Block, blocks.Perm (blocksOf as bs m w) ∧
      Drains as bs w.queued cost blocks := by
  unfold Window.queued
  split
  · exact h
  · rename_i hempty
    exact ⟨[], by rw [blocksOf_of_empty hw hempty], drains_nil cost⟩

end Drains

/-- The loop finds the blocks of a window, in at most two steps for each item of its first part and
one more. -/
theorem exists_drains {m : Nat} (hw : w.Inside as bs) (hm : w.ahi - w.alo ≤ m) :
    ∃ blocks : List Block, blocks.Perm (blocksOf as bs m w) ∧
      Drains as bs [w] (2 * (w.ahi - w.alo) + 1) blocks := by
  induction m generalizing w with
  | zero =>
    have hempty := (longestRun_longest hw).within.size_eq_zero (by omega)
    exact ⟨[], .refl _, (Drains.skip hempty).mono (by omega)⟩
  | succ m ih =>
    by_cases hsize : (best as bs w).size = 0
    · exact ⟨[], by rw [blocksOf_eq_nil hsize], (Drains.skip hsize).mono (by omega)⟩
    have hbest : (best as bs w).Within as bs w := (longestRun_longest hw).within
    have halo := hbest.alo_le
    have hahi := hbest.le_ahi
    obtain ⟨before, hbefore, hdrains⟩ := Drains.queued (hw.before hbest)
      (ih (hw.before hbest) (by simp only [Window.before]; omega))
    obtain ⟨after, hafter, hdrains'⟩ := Drains.queued (hw.after hbest)
      (ih (hw.after hbest) (by simp only [Window.after]; omega))
    -- the part after the run comes to the front of the queue, so its blocks are found first
    refine ⟨best as bs w :: (after ++ before), ?_, ?_⟩
    · rw [blocksOf_succ hw hsize]
      exact ((hafter.append hbefore).trans List.perm_append_comm).cons _ |>.trans
        List.perm_middle.symm
    · refine (Drains.take hsize (hdrains'.append hdrains)).mono ?_
      simp only [Window.before, Window.after]
      omega

/-! ### The blocks that are reported -/

/-- Blocks are sorted by their places. -/
def Block.le (b c : Block) : Bool :=
  b.left < c.left ∨ b.left = c.left ∧ (b.right < c.right ∨ b.right = c.right ∧ b.size ≤ c.size)

/-- Joins blocks that touch in both sequences. `run` is what has been joined last. -/
def joinAdjacent (run : Block) : List Block → List Block
  | [] => if run.size = 0 then [] else [run]
  | b :: blocks =>
    if run.left + run.size = b.left ∧ run.right + run.size = b.right then
      joinAdjacent ⟨run.left, run.right, run.size + b.size⟩ blocks
    else (if run.size = 0 then [] else [run]) ++ joinAdjacent b blocks

/-- The blocks that a queue of windows gives, sorted and joined, and an empty one at the end. -/
def reportedBlocks (as bs : List ι) : Option (List Block) :=
  (drain as bs (2 * as.length + 1) [Window.full as bs]).map fun blocks =>
    joinAdjacent ⟨0, 0, 0⟩ (blocks.mergeSort Block.le) ++ [⟨as.length, bs.length, 0⟩]

theorem mergeSort_perm_matchingBlocks {blocks : List Block}
    (h : blocks.Perm (matchingBlocks as bs)) :
    blocks.mergeSort Block.le = matchingBlocks as bs := by
  have htrans : ∀ a b c : Block, a.le b → b.le c → a.le c := by
    simp only [Block.le, decide_eq_true_iff]
    omega
  have htotal : ∀ a b : Block, a.le b || b.le a := by
    simp only [Block.le, Bool.or_eq_true, decide_eq_true_iff]
    omega
  obtain ⟨hwithin, hbefore⟩ := blocksOf_spec (Window.full_inside as bs) as.length
  have hsorted : (matchingBlocks as bs).Pairwise fun b c => b.le c :=
    hbefore.imp_of_mem fun hb _ hbc => by
      have hpos := (hwithin _ hb).1
      simp only [Block.le, decide_eq_true_iff]
      exact .inl (by have := hbc.1; omega)
  have hantisymm : ∀ a b : Block, a.le b → b.le a → a = b := by
    rintro ⟨left, right, size⟩ ⟨left', right', size'⟩ hab hba
    simp only [Block.le, decide_eq_true_iff] at hab hba
    simp only [Block.mk.injEq]
    omega
  exact List.Perm.eq_of_pairwise (fun a b _ _ => hantisymm a b)
    (List.pairwise_mergeSort htrans htotal blocks) hsorted ((List.mergeSort_perm ..).trans h)

theorem pairs_single (run : Block) : pairs (if run.size = 0 then [] else [run]) = run.pairs := by
  split
  · rename_i hempty
    rw [Block.pairs, hempty]
    rfl
  · exact List.flatMap_singleton ..

/-- Joining blocks changes none of the pairs. -/
theorem pairs_joinAdjacent (run : Block) (blocks : List Block) :
    pairs (joinAdjacent run blocks) = run.pairs ++ pairs blocks := by
  induction blocks generalizing run with
  | nil => rw [joinAdjacent, pairs_single]; exact (List.append_nil _).symm
  | cons b blocks ih =>
    rw [joinAdjacent]
    split
    · rename_i htouch
      have hjoined : Block.pairs ⟨run.left, run.right, run.size + b.size⟩
          = run.pairs ++ b.pairs := by
        simp only [Block.pairs, List.range_add, List.map_append, List.map_map, ← htouch.1,
          ← htouch.2]
        congr 2
        funext k
        simp only [Function.comp_apply, Nat.add_assoc]
      rw [ih, hjoined, List.append_assoc]
      rfl
    · rw [pairs_append, pairs_single, ih]
      rfl

/-- **The loop over the queue pairs the same places** as the recursion. -/
theorem pairs_reportedBlocks (as bs : List ι) : ∃ blocks, reportedBlocks as bs = some blocks ∧
    pairs blocks = pairs (matchingBlocks as bs) := by
  obtain ⟨blocks, hperm, hdrains⟩ :=
    exists_drains (Window.full_inside as bs) (Nat.le_refl as.length)
  have hdrained : drain as bs (2 * as.length + 1) [Window.full as bs] = some blocks := by
    obtain ⟨spare, -, hdrain⟩ := hdrains 0 []
    rw [Nat.zero_add, List.append_nil] at hdrain
    exact hdrain.trans (by rw [drain, Option.map_some, List.append_nil])
  refine ⟨joinAdjacent ⟨0, 0, 0⟩ (matchingBlocks as bs) ++ [⟨as.length, bs.length, 0⟩], ?_, ?_⟩
  · rw [reportedBlocks, hdrained, Option.map_some, mergeSort_perm_matchingBlocks hperm]
  · rw [pairs_append, pairs_joinAdjacent]
    simp [pairs, Block.pairs]

/-! ### The ratio -/

theorem fragmentRatio_eq {fragment : List ι} (h : fragment ≠ []) (whole : List ι) :
    (fragmentRatio fragment whole : ℚ)
      = (pairs (matchingBlocks fragment whole)).length / fragment.length := by
  rw [fragmentRatio, if_neg (by simpa using h), Score.ratio_rat, length_pairs]

/-- **The ratio never overstates.** The blocks of a fragment that is not empty pair equal items at
rising places, and the ratio is the share of the fragment that they cover. So it is at most the
share of a longest common subsequence, it is positive exactly if there is a common item, and it is
full if the fragment stands in one piece in the whole. -/
theorem fragmentRatio_le_longestCommon {fragment : List ι} (h : fragment ≠ []) (whole : List ι) :
    (∃ blocks, reportedBlocks fragment whole = some blocks ∧
      Pairing fragment whole (pairs blocks) ∧
      (fragmentRatio fragment whole : ℚ) = total (blocks.map (·.size)) / fragment.length) ∧
    IsGreatest {n | ∃ l : List ι, l.Sublist fragment ∧ l.Sublist whole ∧ l.length = n}
      (longestCommon fragment whole) ∧
    (fragmentRatio fragment whole : ℚ) ≤ longestCommon fragment whole / fragment.length ∧
    (fragmentRatio fragment whole : ℚ) ≤ 1 ∧
    ((0 : ℚ) < fragmentRatio fragment whole ↔ ∃ a ∈ fragment, a ∈ whole) ∧
    (fragment <:+: whole → (fragmentRatio fragment whole : ℚ) = 1) := by
  have hlength : 0 < fragment.length := List.length_pos_iff.mpr h
  have hpositive : (0 : ℚ) < fragment.length := Nat.cast_pos.mpr hlength
  have hpairing := pairing_matchingBlocks fragment whole
  rw [fragmentRatio_eq h]
  refine ⟨?_, isGreatest_longestCommon fragment whole, ?_, ?_, ?_, fun hcontiguous => ?_⟩
  · obtain ⟨blocks, hblocks, hpairs⟩ := pairs_reportedBlocks fragment whole
    refine ⟨blocks, hblocks, hpairs ▸ hpairing, ?_⟩
    rw [← length_pairs, hpairs]
  · exact (div_le_div_iff_of_pos_right hpositive).mpr (Nat.cast_le.mpr hpairing.length_le)
  · exact (ratio_mem (length_pairs_le fragment whole)).2
  · rw [div_pos_iff_of_pos_right hpositive, Nat.cast_pos, length_pairs_pos_iff]
  · exact (ratio_eq_one_iff hlength).mpr (length_pairs_of_contiguous hcontiguous)

theorem fragmentRatio_abcab : "abcab".toList ≠ [] ∧
    (fragmentRatio "abcab".toList "cabxb".toList : ℚ) ≤ 3 / 5 ∧
    (0 : ℚ) < fragmentRatio "abcab".toList "cabxb".toList := by
  have hnonempty : "abcab".toList ≠ [] := by decide
  obtain ⟨-, -, hle, -, hpos, -⟩ :=
    fragmentRatio_le_longestCommon hnonempty "cabxb".toList
  have hcommon : longestCommon "abcab".toList "cabxb".toList = 3 := by simp [longestCommon]
  refine ⟨hnonempty, ?_, hpos.mpr ⟨'a', by decide, by decide⟩⟩
  rw [hcommon] at hle
  exact hle

end Lineage.Sequence
