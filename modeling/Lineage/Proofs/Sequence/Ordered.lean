import Lineage.Proofs.Score.Double
import Lineage.Proofs.Sequence.Blocks
import Mathlib.Logic.Relation

/-!
# Fragments that occur in order

The division takes the first longest common run of a window and goes on with the parts before and
after it.  It never takes a run back.  So a fragment whose items all occur in order is found in full
exactly if they still do in every window that the division reaches: a run may lie too early or too
late in the whole, and then items on one side of it have lost their places.

## Main statements

- `found_in_order_iff`: **the ratio is full exactly if every window that is reached is in order.**
- `Window.Reached.ordered`: an item that occurs once cannot be misplaced.
-/

namespace Lineage.Sequence

variable {ι : Type} {as bs : List ι} {w v : Window} {b : Block}

/-! ### The items of a window -/

/-- The items of a sequence from one place up to another. -/
def slice (l : List ι) (lo hi : Nat) : List ι := (l.take hi).drop lo

theorem length_slice {l : List ι} {lo hi : Nat} (h : hi ≤ l.length) :
    (slice l lo hi).length = hi - lo := by
  simp [slice, Nat.min_eq_left h]

theorem slice_append {l : List ι} {lo m hi : Nat} (h : lo ≤ m) (h' : m ≤ hi) :
    slice l lo m ++ slice l m hi = slice l lo hi := by
  have hfirst : slice l lo m = ((l.take hi).drop lo).take (m - lo) := by
    rw [slice, List.take_drop, Nat.add_sub_cancel' h, List.take_take, Nat.min_eq_left h']
  have hrest : slice l m hi = ((l.take hi).drop lo).drop (m - lo) := by
    rw [slice, List.drop_drop, Nat.add_sub_cancel' h]
  rw [hfirst, hrest, List.take_append_drop]
  rfl

theorem getElem?_slice {l : List ι} {lo hi k : Nat} (h : lo + k < hi) :
    (slice l lo hi)[k]? = l[lo + k]? := by
  rw [slice, List.getElem?_drop, List.getElem?_take_of_lt h]

/-- The items of a common run are the same in both sequences. -/
theorem CommonRun.slice_eq {i j n : Nat} (h : CommonRun as bs i j n) :
    slice as i (i + n) = slice bs j (j + n) := by
  apply List.ext_getElem?
  intro k
  by_cases hk : k < n
  · rw [getElem?_slice (by omega), getElem?_slice (by omega)]
    exact (h k hk).2
  · simp only [slice, List.getElem?_drop]
    rw [List.getElem?_take_eq_none (by omega), List.getElem?_take_eq_none (by omega)]

namespace Window

/-- The items of the first sequence in a window occur in order among those of the second. -/
def Ordered (as bs : List ι) (w : Window) : Prop :=
  (slice as w.alo w.ahi).Sublist (slice bs w.blo w.bhi)

/-- A part of a window before or after its first longest common run. -/
inductive Splits (as bs : List ι) (w : Window) : Window → Prop where
  | before {b : Block} : b.Longest as bs w → 0 < b.size → Splits as bs w (w.before b)
  | after {b : Block} : b.Longest as bs w → 0 < b.size → Splits as bs w (w.after b)

/-- The division comes to the window, from that of all items. -/
def Reached (as bs : List ι) : Window → Prop :=
  Relation.ReflTransGen (Splits as bs) (full as bs)

theorem slice_left (hb : b.Within as bs w) : slice as w.alo w.ahi =
    slice as w.alo b.left ++ (slice as b.left (b.left + b.size) ++
      slice as (b.left + b.size) w.ahi) := by
  rw [slice_append (Nat.le_add_right _ _) hb.le_ahi,
    slice_append hb.alo_le (Nat.le_of_add_right_le hb.le_ahi)]

theorem slice_right (hb : b.Within as bs w) : slice bs w.blo w.bhi =
    slice bs w.blo b.right ++ (slice as b.left (b.left + b.size) ++
      slice bs (b.right + b.size) w.bhi) := by
  rw [hb.run.slice_eq, slice_append (Nat.le_add_right _ _) hb.le_bhi,
    slice_append hb.blo_le (Nat.le_of_add_right_le hb.le_bhi)]

/-- A run between two parts that are in order. -/
theorem Ordered.join (hb : b.Within as bs w) (hbefore : (w.before b).Ordered as bs)
    (hafter : (w.after b).Ordered as bs) : w.Ordered as bs := by
  unfold Ordered
  rw [slice_left hb, slice_right hb]
  exact hbefore.append ((List.Sublist.refl _).append hafter)

/-- In a window that is in order, and not empty, there is a common item. -/
theorem Ordered.exists_run (hw : w.Inside as bs) (h : w.Ordered as bs) (hpos : w.alo < w.ahi) :
    ∃ c : Block, c.Within as bs w ∧ c.size = 1 := by
  have hahi := hw.ahi_le
  have hbhi := hw.bhi_le
  have hlength : (slice bs w.blo w.bhi).length = w.bhi - w.blo := length_slice hbhi
  have hfirst : as[w.alo] ∈ slice as w.alo w.ahi := by
    apply List.mem_of_getElem? (i := 0)
    rw [getElem?_slice (by omega), Nat.add_zero, List.getElem?_eq_getElem (by omega)]
  obtain ⟨k, hk, hitem⟩ := List.getElem_of_mem (h.subset hfirst)
  have hplace : bs[w.blo + k]? = some as[w.alo] := by
    have hslice : (slice bs w.blo w.bhi)[k]? = bs[w.blo + k]? := getElem?_slice (by omega)
    rw [← hslice, List.getElem?_eq_getElem hk, hitem]
  have hsame : Same as bs w.alo (w.blo + k) := by
    refine ⟨by omega, ?_⟩
    rw [hplace, List.getElem?_eq_getElem (by omega)]
  exact ⟨⟨w.alo, w.blo + k, 1⟩,
    ⟨Nat.le_refl _, hpos, Nat.le_add_right _ _, by simp only; omega, commonRun_one.mpr hsame⟩, rfl⟩

end Window

/-! ### Items that occur once -/

/-- An item that occurs once on the right has its place there, so what stands before it and what
stands after it are in order. -/
theorem sublist_split {a : ι} {l l' r r' : List ι} (hr : a ∉ r) (hr' : a ∉ r')
    (h : (l ++ a :: l').Sublist (r ++ a :: r')) : l.Sublist r ∧ l'.Sublist r' := by
  induction r generalizing l with
  | nil =>
    cases l with
    | nil =>
      rw [List.nil_append, List.nil_append] at h
      exact ⟨.slnil, List.cons_sublist_cons.mp h⟩
    | cons x l =>
      -- the item would occur once more, behind its only place
      have hmem : a ∈ r' := by
        cases h with
        | cons _ h => exact h.subset (by simp)
        | cons_cons _ h => exact h.subset (by simp)
      exact absurd hmem hr'
  | cons y r ih =>
    rw [List.mem_cons, not_or] at hr
    cases l with
    | nil =>
      cases h with
      | cons _ h =>
        obtain ⟨hleft, hright⟩ := ih (l := []) hr.2 h
        exact ⟨hleft.cons y, hright⟩
      | cons_cons => exact absurd rfl hr.1
    | cons x l =>
      cases h with
      | cons _ h =>
        obtain ⟨hleft, hright⟩ := ih (l := x :: l) hr.2 h
        exact ⟨hleft.cons y, hright⟩
      | cons_cons _ h =>
        obtain ⟨hleft, hright⟩ := ih hr.2 h
        exact ⟨hleft.cons_cons _, hright⟩

namespace Window

/-- Splitting at a run keeps a window in order, if no item of the run occurs twice on the right. -/
theorem Ordered.split [DecidableEq ι] (hb : b.Within as bs w) (hpos : 0 < b.size)
    (hahi : w.ahi ≤ as.length) (honce : ∀ a ∈ as, bs.count a ≤ 1) (h : w.Ordered as bs) :
    (w.before b).Ordered as bs ∧ (w.after b).Ordered as bs := by
  unfold Ordered at h
  obtain ⟨a, run, hrun⟩ : ∃ a run, slice as b.left (b.left + b.size) = a :: run := by
    apply List.exists_cons_of_ne_nil
    rw [← List.length_pos_iff, length_slice (hb.le_ahi.trans hahi)]
    omega
  have hmem : a ∈ as := by
    have hslice : a ∈ slice as b.left (b.left + b.size) := by
      rw [hrun]
      exact List.mem_cons_self
    exact List.mem_of_mem_take (List.mem_of_mem_drop hslice)
  have hcount : (slice bs w.blo w.bhi).count a ≤ 1 :=
    (((List.drop_sublist _ _).trans (List.take_sublist _ _)).count_le a).trans (honce a hmem)
  rw [slice_right hb, hrun, List.cons_append, List.count_append, List.count_cons_self] at hcount
  have hbefore : a ∉ slice bs w.blo b.right := by
    rw [← List.count_eq_zero]
    omega
  have hafter : a ∉ run ++ slice bs (b.right + b.size) w.bhi := by
    rw [← List.count_eq_zero]
    omega
  rw [slice_left hb, slice_right hb, hrun, List.cons_append, List.cons_append] at h
  obtain ⟨hleft, hright⟩ := sublist_split hbefore hafter h
  exact ⟨hleft, (List.append_sublist_append_left run).mp hright⟩

/-- If no item of a fragment occurs twice in the whole, every window is in order that is reached. -/
theorem Reached.ordered [DecidableEq ι] (honce : ∀ a ∈ as, bs.count a ≤ 1) (h : as.Sublist bs)
    (hw : Reached as bs w) : w.Inside as bs ∧ w.Ordered as bs := by
  induction hw with
  | refl =>
    refine ⟨full_inside as bs, ?_⟩
    simpa [Ordered, slice, full] using h
  | tail _ hsplit ih =>
    obtain ⟨hinside, hordered⟩ := ih
    cases hsplit with
    | before hb hpos =>
      exact ⟨hinside.before hb.within, (hordered.split hb.within hpos hinside.ahi_le honce).1⟩
    | after hb hpos =>
      exact ⟨hinside.after hb.within, (hordered.split hb.within hpos hinside.ahi_le honce).2⟩

end Window

/-! ### What is found of a window -/

variable [DecidableEq ι] {fuel : Nat}

/-- The number of items that the blocks of a window cover. -/
def covered (as bs : List ι) (fuel : Nat) (w : Window) : Nat :=
  total ((blocksOf as bs fuel w).map (·.size))

theorem covered_eq_zero (hempty : (best as bs w).size = 0) : covered as bs fuel w = 0 := by
  rw [covered, blocksOf_eq_nil hempty]
  rfl

theorem covered_succ (hw : w.Inside as bs) (hsize : (best as bs w).size ≠ 0) :
    covered as bs (fuel + 1) w = covered as bs fuel (w.before (best as bs w)) +
      ((best as bs w).size + covered as bs fuel (w.after (best as bs w))) := by
  simp only [covered, blocksOf_succ hw hsize, List.map_append, List.map_cons, total_append, total]

theorem covered_le (hw : w.Inside as bs) : covered as bs fuel w ≤ w.ahi - w.alo := by
  induction fuel generalizing w with
  | zero => exact Nat.zero_le _
  | succ fuel ih =>
    by_cases hsize : (best as bs w).size = 0
    · rw [covered_eq_zero hsize]
      exact Nat.zero_le _
    · have hbest : (best as bs w).Within as bs w := (longestRun_longest hw).within
      have hbefore := ih (hw.before hbest)
      have hafter := ih (hw.after hbest)
      have hleft := hbest.alo_le
      have hright := hbest.le_ahi
      rw [covered_succ hw hsize]
      simp only [Window.before, Window.after] at hbefore hafter ⊢
      omega

/-- A window without a common run is in order only if it holds nothing of the first sequence. -/
theorem Window.ordered_iff_of_no_run (hw : w.Inside as bs) (hempty : (best as bs w).size = 0) :
    w.Ordered as bs ↔ w.ahi - w.alo = 0 := by
  constructor
  · intro h
    by_contra hne
    obtain ⟨c, hc, hsize⟩ := h.exists_run hw (by omega)
    have hle : c.size ≤ (best as bs w).size := (longestRun_longest hw).size_le c hc
    omega
  · intro hzero
    have hnil : slice as w.alo w.ahi = [] := by
      rw [← List.length_eq_zero_iff, length_slice hw.ahi_le, hzero]
    rw [Window.Ordered, hnil]
    exact List.nil_sublist _

/-- What a window splits into, if the first longest run is not empty. -/
theorem Window.splits_iff (hw : w.Inside as bs) : Window.Splits as bs w v ↔
    (best as bs w).size ≠ 0 ∧ (v = w.before (best as bs w) ∨ v = w.after (best as bs w)) := by
  have hbest : (best as bs w).Longest as bs w := longestRun_longest hw
  constructor
  · intro h
    cases h with
    | before hb hpos =>
      obtain rfl := hb.unique hbest
      exact ⟨Nat.ne_of_gt hpos, .inl rfl⟩
    | after hb hpos =>
      obtain rfl := hb.unique hbest
      exact ⟨Nat.ne_of_gt hpos, .inr rfl⟩
  · rintro ⟨hsize, rfl | rfl⟩
    · exact .before hbest (Nat.pos_of_ne_zero hsize)
    · exact .after hbest (Nat.pos_of_ne_zero hsize)

theorem covered_eq_iff_of_no_run (hw : w.Inside as bs) (hempty : (best as bs w).size = 0) :
    covered as bs fuel w = w.ahi - w.alo ↔
      ∀ v, Relation.ReflTransGen (Window.Splits as bs) w v → v.Ordered as bs := by
  rw [covered_eq_zero hempty]
  constructor
  · intro hzero v hv
    rcases hv.cases_head with rfl | ⟨u, hu, -⟩
    · exact (Window.ordered_iff_of_no_run hw hempty).mpr hzero.symm
    · exact absurd hempty ((Window.splits_iff hw).mp hu).1
  · intro h
    exact ((Window.ordered_iff_of_no_run hw hempty).mp (h w .refl)).symm

/-- **A window is covered in full exactly if it is in order, and so is every window that it is
divided into.** -/
theorem covered_eq_iff (hw : w.Inside as bs) (hfuel : w.ahi - w.alo ≤ fuel) :
    covered as bs fuel w = w.ahi - w.alo ↔
      ∀ v, Relation.ReflTransGen (Window.Splits as bs) w v → v.Ordered as bs := by
  induction fuel generalizing w with
  | zero =>
    have hbest : (best as bs w).Within as bs w := (longestRun_longest hw).within
    exact covered_eq_iff_of_no_run hw (hbest.size_eq_zero (by omega))
  | succ fuel ih =>
    by_cases hsize : (best as bs w).size = 0
    · exact covered_eq_iff_of_no_run hw hsize
    have hlongest : (best as bs w).Longest as bs w := longestRun_longest hw
    have hbest := hlongest.within
    have hleft := hbest.alo_le
    have hright := hbest.le_ahi
    have hpos := Nat.pos_of_ne_zero hsize
    have hbefore := ih (hw.before hbest) (by simp only [Window.before]; omega)
    have hafter := ih (hw.after hbest) (by simp only [Window.after]; omega)
    have hle : covered as bs fuel (w.before (best as bs w)) ≤ _ := covered_le (hw.before hbest)
    have hle' : covered as bs fuel (w.after (best as bs w)) ≤ _ := covered_le (hw.after hbest)
    -- neither part covers more than its items, so the whole window needs both in full
    have hparts : covered as bs (fuel + 1) w = w.ahi - w.alo ↔
        covered as bs fuel (w.before (best as bs w)) =
          (w.before (best as bs w)).ahi - (w.before (best as bs w)).alo ∧
        covered as bs fuel (w.after (best as bs w)) =
          (w.after (best as bs w)).ahi - (w.after (best as bs w)).alo := by
      rw [covered_succ hw hsize]
      simp only [Window.before, Window.after] at hle hle' ⊢
      omega
    rw [hparts, hbefore, hafter]
    constructor
    · rintro ⟨hbefores, hafters⟩ v hv
      rcases hv.cases_head with rfl | ⟨u, hu, huv⟩
      · exact .join hbest (hbefores _ .refl) (hafters _ .refl)
      · rcases (Window.splits_iff hw).mp hu with ⟨-, rfl | rfl⟩
        · exact hbefores v huv
        · exact hafters v huv
    · intro h
      exact ⟨fun v hv => h v (.head (.before hlongest hpos) hv),
        fun v hv => h v (.head (.after hlongest hpos) hv)⟩

/-! ### The ratio -/

theorem fragmentRatio_eq_ratio {α : Type} [Score α] {fragment : List ι} (h : fragment ≠ [])
    (whole : List ι) : (fragmentRatio fragment whole : α) =
      Score.ratio (covered fragment whole fragment.length (Window.full fragment whole))
        fragment.length := by
  rw [fragmentRatio, if_neg (by simpa using h)]
  rfl

theorem covered_full_iff (as bs : List ι) :
    covered as bs as.length (Window.full as bs) = as.length ↔
      ∀ w, Window.Reached as bs w → w.Ordered as bs :=
  covered_eq_iff (Window.full_inside as bs) (Nat.le_refl _)

/-- **When a fragment is found in full.**  The ratio is one exactly if in every window that the
division reaches the items of the fragment occur in order.  They do if the fragment occurs in order
in the whole and none of its items occurs there twice. -/
theorem found_in_order_iff {fragment : List ι} (h : fragment ≠ []) (whole : List ι) :
    ((fragmentRatio fragment whole : ℚ) = 1 ↔
      ∀ w, Window.Reached fragment whole w → w.Ordered fragment whole) ∧
    ((∀ w, Window.Reached fragment whole w → w.Ordered fragment whole) →
      fragment.length < 2 ^ 53 → (fragmentRatio fragment whole : Float) = Score.one) ∧
    (fragment.Sublist whole → (∀ a ∈ fragment, whole.count a ≤ 1) →
      ∀ w, Window.Reached fragment whole w → w.Ordered fragment whole) := by
  have hlength : 0 < fragment.length := List.length_pos_iff.mpr h
  refine ⟨?_, ?_, ?_⟩
  · rw [fragmentRatio_eq_ratio h, ← covered_full_iff]
    exact ratio_eq_one_iff hlength
  · intro hordered hsmall
    rw [fragmentRatio_eq_ratio h, (covered_full_iff fragment whole).mpr hordered]
    exact Double.ratio_self hlength hsmall
  · intro hsublist honce w hw
    exact (hw.ordered honce hsublist).2

theorem found_in_order_iff_gaps : ['a', 'c', 'e'] ≠ [] ∧
    ['a', 'c', 'e'].Sublist ['a', 'b', 'c', 'd', 'e'] ∧
    (∀ a ∈ ['a', 'c', 'e'], ['a', 'b', 'c', 'd', 'e'].count a ≤ 1) ∧
    (fragmentRatio ['a', 'c', 'e'] ['a', 'b', 'c', 'd', 'e'] : ℚ) = 1 ∧
    (fragmentRatio ['a', 'c', 'e'] ['a', 'b', 'c', 'd', 'e'] : Float) = Score.one := by
  have hnonempty : ['a', 'c', 'e'] ≠ [] := by decide
  have hsublist : ['a', 'c', 'e'].Sublist ['a', 'b', 'c', 'd', 'e'] := by decide
  obtain ⟨hiff, hfloat, honce⟩ := found_in_order_iff hnonempty ['a', 'b', 'c', 'd', 'e']
  have hcount : ∀ a ∈ ['a', 'c', 'e'], ['a', 'b', 'c', 'd', 'e'].count a ≤ 1 := by simp
  have hordered := honce hsublist hcount
  exact ⟨hnonempty, hsublist, hcount, hiff.mpr hordered, hfloat hordered (by simp)⟩

/-- The longest run `ab` stands at the front of the whole, so nothing is left for the item before
it, which occurs further on. -/
theorem not_found_in_order : ¬ ∀ fragment whole : List Char, fragment ≠ [] →
    fragment.Sublist whole → (fragmentRatio fragment whole : ℚ) = 1 := by
  intro h
  have hfull := h ['x', 'a', 'b'] ['a', 'b', 'x', 'y', 'a', 'y', 'b'] (by decide) (by decide)
  have hblocks : matchingBlocks ['x', 'a', 'b'] ['a', 'b', 'x', 'y', 'a', 'y', 'b'] = [⟨1, 0, 2⟩] :=
    by decide
  rw [fragmentRatio_eq (by decide), hblocks] at hfull
  norm_num [pairs, Block.pairs] at hfull

end Lineage.Sequence
