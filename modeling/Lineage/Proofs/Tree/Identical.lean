import Lineage.Proofs.Tree.Walks
import Lineage.Tree.Matching
import Mathlib.Data.List.Nodup
import Mathlib.Order.Nat

/-!
# Matching a tree against its copy

Two trees that are alike, each without a node that occurs twice, are matched position by position
(`Matcher.run_of_alike`). There are two ways to it. If the trees are high enough to be anchored, the
root is the first source and finds the other root alone: a node below it is smaller. If not, nothing
is anchored and no container is found, so the roots are paired last, and children that are alike
pair up in order.

Digests may collide: the size tells the root of the copy from what is below it, and children are
paired by label, value and order before their digests are compared.
-/

namespace Lineage

theorem foldl_eq_self {β γ : Type} {f : β → γ → β} {b : β} {l : List γ}
    (h : ∀ c ∈ l, f b c = b) : l.foldl f b = b := by
  induction l with
  | nil => rfl
  | cons c l ih =>
    rw [List.foldl_cons, h c List.mem_cons_self, ih fun d hd => h d (List.mem_cons_of_mem _ hd)]

namespace NodeMapping
variable {m : NodeMapping} {s a b : Tree} {pairs : List (Tree × Tree)}

@[simp] theorem hasSrc_empty : empty.hasSrc s = false := Std.TreeMap.contains_emptyc

@[simp] theorem hasDst_empty : empty.hasDst s = false := Std.TreeMap.contains_emptyc

@[simp] theorem mapped?_empty : empty.mapped? s = none := Std.TreeMap.getElem?_emptyc

theorem hasSrc_add : (m.add a b).hasSrc s = true ↔ a.id = s.id ∨ m.hasSrc s = true := by
  simp [hasSrc, add]

theorem hasDst_add : (m.add a b).hasDst s = true ↔ b.id = s.id ∨ m.hasDst s = true := by
  simp [hasDst, add]

theorem mapped?_add : (m.add a b).mapped? s = if a.id = s.id then some b else m.mapped? s := by
  simp [mapped?, add, Std.TreeMap.getElem?_insert]

/-- Pairs nodes one after the other. -/
def addAll (m : NodeMapping) (pairs : List (Tree × Tree)) : NodeMapping :=
  pairs.foldl (fun m p => m.add p.1 p.2) m

theorem addAll_append (m : NodeMapping) (ps qs : List (Tree × Tree)) :
    m.addAll (ps ++ qs) = (m.addAll ps).addAll qs :=
  List.foldl_append

theorem hasSrc_addAll :
    (m.addAll pairs).hasSrc s = true ↔ (∃ p ∈ pairs, p.1.id = s.id) ∨ m.hasSrc s = true := by
  induction pairs generalizing m with
  | nil => simp [addAll]
  | cons p pairs ih =>
    rw [addAll, List.foldl_cons, ← addAll, ih, hasSrc_add, List.exists_mem_cons_iff, or_assoc,
      or_left_comm]

theorem hasDst_addAll :
    (m.addAll pairs).hasDst s = true ↔ (∃ p ∈ pairs, p.2.id = s.id) ∨ m.hasDst s = true := by
  induction pairs generalizing m with
  | nil => simp [addAll]
  | cons p pairs ih =>
    rw [addAll, List.foldl_cons, ← addAll, ih, hasDst_add, List.exists_mem_cons_iff, or_assoc,
      or_left_comm]

/-- What is paired later does not change the counterpart of another node. -/
theorem mapped?_addAll_of_ne (h : ∀ p ∈ pairs, p.1.id ≠ s.id) :
    (m.addAll pairs).mapped? s = m.mapped? s := by
  induction pairs generalizing m with
  | nil => rfl
  | cons p pairs ih =>
    rw [addAll, List.foldl_cons, ← addAll, ih fun q hq => h q (List.mem_cons_of_mem _ hq),
      mapped?_add, if_neg (h p List.mem_cons_self)]

theorem mapped?_addAll (hnodup : (pairs.map (·.1.id)).Nodup) (hmem : (a, b) ∈ pairs) :
    (m.addAll pairs).mapped? a = some b := by
  induction pairs generalizing m with
  | nil => exact absurd hmem List.not_mem_nil
  | cons p pairs ih =>
    obtain ⟨hp, hnodup⟩ := List.nodup_cons.mp hnodup
    rw [addAll, List.foldl_cons, ← addAll]
    rcases List.mem_cons.mp hmem with rfl | hmem
    · have hlater : ∀ q ∈ pairs, q.1.id ≠ a.id := fun q hq heq => hp (List.mem_map.mpr ⟨q, hq, heq⟩)
      rw [mapped?_addAll_of_ne hlater, mapped?_add, if_pos rfl]
    · exact ih hnodup hmem

/-- None of some nodes of the first tree has a counterpart, and none of some nodes of the second is
one. -/
structure Free (m : NodeMapping) (as bs : List Tree) : Prop where
  src : ∀ a ∈ as, m.hasSrc a = false
  dst : ∀ b ∈ bs, m.hasDst b = false

theorem free_empty (as bs : List Tree) : empty.Free as bs :=
  ⟨fun _ _ => hasSrc_empty, fun _ _ => hasDst_empty⟩

theorem Free.mono {as bs as' bs' : List Tree} (hm : m.Free as bs) (ha : as' ⊆ as) (hb : bs' ⊆ bs) :
    m.Free as' bs' :=
  ⟨fun a h => hm.src a (ha h), fun b h => hm.dst b (hb h)⟩

/-- Pairing some nodes leaves others free. -/
theorem Free.addAll {as bs as' bs' : List Tree} (hm : m.Free as' bs')
    (ha : List.Disjoint (as.map Tree.id) (as'.map Tree.id))
    (hb : List.Disjoint (bs.map Tree.id) (bs'.map Tree.id)) :
    (m.addAll (as.zip bs)).Free as' bs' := by
  constructor
  · intro a ha'
    refine Bool.eq_false_iff.mpr fun hsrc => ?_
    rcases hasSrc_addAll.mp hsrc with ⟨p, hp, heq⟩ | hsrc
    · exact ha (List.mem_map_of_mem (List.of_mem_zip hp).1) (heq ▸ List.mem_map_of_mem ha')
    · exact Bool.false_ne_true ((hm.src a ha').symm.trans hsrc)
  · intro b hb'
    refine Bool.eq_false_iff.mpr fun hdst => ?_
    rcases hasDst_addAll.mp hdst with ⟨p, hp, heq⟩ | hdst
    · exact hb (List.mem_map_of_mem (List.of_mem_zip hp).2) (heq ▸ List.mem_map_of_mem hb')
    · exact Bool.false_ne_true ((hm.dst b hb').symm.trans hdst)

theorem Free.add {as bs : List Tree} (hm : m.Free as bs) (ha : a.id ∉ as.map Tree.id)
    (hb : b.id ∉ bs.map Tree.id) : (m.add a b).Free as bs := by
  show (m.addAll ([a].zip [b])).Free as bs
  exact hm.addAll (List.singleton_disjoint.mpr ha) (List.singleton_disjoint.mpr hb)

end NodeMapping

namespace Matcher
variable {m : NodeMapping} {a b : Tree} {as bs : List Tree} {h : ByteArray → String}

/-! ### Pairing copies -/

/-- Free nodes that are all different are paired as they are given. -/
theorem foldl_pair (hna : (as.map Tree.id).Nodup) (hnb : (bs.map Tree.id).Nodup)
    (hm : m.Free as bs) :
    (as.zip bs).foldl (fun m (a, b) => if !m.hasSrc a && !m.hasDst b then m.add a b else m) m
      = m.addAll (as.zip bs) := by
  induction as generalizing bs m with
  | nil => rfl
  | cons a as ih =>
    cases bs with
    | nil => rfl
    | cons b bs =>
      obtain ⟨ha, hna⟩ := List.nodup_cons.mp hna
      obtain ⟨hb, hnb⟩ := List.nodup_cons.mp hnb
      have hrest := hm.mono (List.subset_cons_self a as) (List.subset_cons_self b bs)
      have hfree : (!m.hasSrc a && !m.hasDst b) = true := by
        rw [hm.src a List.mem_cons_self, hm.dst b List.mem_cons_self]
        rfl
      rw [List.zip_cons_cons, List.foldl_cons]
      dsimp only
      rw [if_pos hfree]
      exact ih hna hnb (hrest.add ha hb)

theorem hasSrc_addAll_zip (hlength : as.length = bs.length) :
    ∀ n ∈ as, (m.addAll (as.zip bs)).hasSrc n = true := by
  intro n hn
  rw [← List.map_fst_zip hlength.le] at hn
  obtain ⟨p, hp, rfl⟩ := List.mem_map.mp hn
  exact NodeMapping.hasSrc_addAll.mpr (.inl ⟨p, hp, rfl⟩)

theorem mapSubtree_eq (hna : a.Distinct) (hnb : b.Distinct) (hm : m.Free a.preorder b.preorder) :
    mapSubtree a b m = m.addAll (a.preorder.zip b.preorder) :=
  foldl_pair hna hnb hm

theorem takeLike_head (hab : a.Alike b) : takeLike a (b :: bs) = some (b, bs) := by
  cases hab
  rw [takeLike]
  exact if_pos (by simp [Tree.label, Tree.value])

/-- Children that are alike pair up in order, each with all that is below it. -/
theorem recoverAmong_alike (hab : List.Forall₂ Tree.Alike as bs) (ha : ∀ a ∈ as, a.Sound h)
    (hb : ∀ b ∈ bs, b.Sound h) (hna : ((as.flatMap Tree.preorder).map Tree.id).Nodup)
    (hnb : ((bs.flatMap Tree.preorder).map Tree.id).Nodup)
    (hm : m.Free (as.flatMap Tree.preorder) (bs.flatMap Tree.preorder)) :
    recoverAmong as bs m
      = m.addAll ((as.flatMap Tree.preorder).zip (bs.flatMap Tree.preorder)) := by
  -- on the children: pairing the first two leaves all that is below the others free
  induction hab generalizing m with
  | nil => rfl
  | @cons a b as bs hab hrest ih =>
    rw [List.flatMap_cons, List.map_append] at hna hnb
    obtain ⟨hna, hnas, hdisjointa⟩ := List.nodup_append'.mp hna
    obtain ⟨hnb, hnbs, hdisjointb⟩ := List.nodup_append'.mp hnb
    rw [List.flatMap_cons, List.flatMap_cons] at hm ⊢
    have hhead := hm.mono (List.subset_append_left ..) (List.subset_append_left ..)
    have htail := (hm.mono (List.subset_append_right ..) (List.subset_append_right ..)).addAll
      hdisjointa hdisjointb
    obtain ⟨hdigest, hsize, -⟩ :=
      hab.summary_eq (ha a List.mem_cons_self) (hb b List.mem_cons_self)
    rw [recoverAmong, hhead.src a a.mem_preorder_self, takeLike_head hab, hdigest, hsize]
    simp only [Bool.false_eq_true, if_false, beq_self_eq_true, Bool.and_self, if_true]
    rw [mapSubtree_eq hna hnb hhead, List.zip_append hab.preorder.length_eq,
      NodeMapping.addAll_append]
    exact ih (fun c hc => ha c (List.mem_cons_of_mem _ hc))
      (fun c hc => hb c (List.mem_cons_of_mem _ hc)) hnas hnbs htail

theorem recoverChildren_alike (hab : a.Alike b) (ha : a.Sound h) (hb : b.Sound h)
    (hna : a.Distinct) (hnb : b.Distinct) (hm : m.Free a.preorder b.preorder) :
    recoverChildren a b (m.add a b) = m.addAll (a.preorder.zip b.preorder) := by
  rw [Tree.Distinct, Tree.preorder_eq, List.map_cons] at hna hnb
  obtain ⟨hna, hnas⟩ := List.nodup_cons.mp hna
  obtain ⟨hnb, hnbs⟩ := List.nodup_cons.mp hnb
  rw [Tree.preorder_eq a, Tree.preorder_eq b] at hm ⊢
  have hfree := (hm.mono (List.subset_cons_self ..) (List.subset_cons_self ..)).add hna hnb
  have hchildren : (b.children.filter fun c => !(m.add a b).hasDst c) = b.children := by
    refine List.filter_eq_self.mpr fun c hc => ?_
    have hdst := hfree.dst c (List.mem_flatMap.mpr ⟨c, hc, c.mem_preorder_self⟩)
    exact congrArg not hdst
  have hrecover := recoverAmong_alike hab.children (fun c => ha.of_mem_children)
    (fun c => hb.of_mem_children) hnas hnbs hfree
  cases a
  rw [recoverChildren, hchildren]
  exact hrecover

/-! ### The first phase -/

theorem getD_byDigest (nodes : List Tree) (d : String) :
    (byDigest nodes).getD d [] = nodes.filter fun n => n.digest == d := by
  induction nodes with
  | nil => rfl
  | cons n nodes ih =>
    rw [byDigest, List.foldr_cons, ← byDigest, Std.TreeMap.getD_alter, List.filter_cons]
    by_cases hd : n.digest = d
    · subst hd
      simp [← ih, Std.TreeMap.getD_eq_getD_getElem?]
    · simp [hd, ih]

variable {α : Type} (s : Matcher α)

/-- Where nothing is high enough, nothing is anchored. -/
theorem anchor_low (ha : a.Sound h) (hlow : (a.height : Int) < s.minAnchorHeight) :
    s.anchor a b m = m := by
  have hnone : s.tall a = [] := by
    refine List.filter_eq_nil_iff.mpr fun n hn => ?_
    have hle := (ha.le_of_mem_preorder hn).2
    simp only [decide_eq_true_eq]
    omega
  rw [anchor, anchorSources, hnone, List.mergeSort_nil, List.foldl_nil]

/-- The order of the sources: the highest first, and those of one height by their places. -/
def sourceOrder (place : Std.TreeMap Nat Nat) (n k : Tree) : Bool :=
  if n.height = k.height then place.getD n.id 0 ≤ place.getD k.id 0 else k.height < n.height

theorem sourceOrder_trans (place : Std.TreeMap Nat Nat) (n k l : Tree)
    (hnk : sourceOrder place n k = true) (hkl : sourceOrder place k l = true) :
    sourceOrder place n l = true := by
  unfold sourceOrder at *
  split at hnk <;> split at hkl <;> split <;> simp only [decide_eq_true_eq] at * <;> omega

theorem sourceOrder_total (place : Std.TreeMap Nat Nat) (n k : Tree) :
    (sourceOrder place n k || sourceOrder place k n) = true := by
  unfold sourceOrder
  rw [Bool.or_eq_true]
  split <;> split <;> simp only [decide_eq_true_eq] <;> omega

theorem sourceOrder_of_lt (place : Std.TreeMap Nat Nat) {n k : Tree} (h : k.height < n.height) :
    sourceOrder place n k = true := by
  rw [sourceOrder, if_neg (Nat.ne_of_gt h)]
  exact decide_eq_true h

/-- The root is the first source where it is high enough: what is below is less high. -/
theorem anchorSources_high (ha : a.Sound h) (hhigh : s.minAnchorHeight ≤ a.height) :
    ∃ rest ⊆ a.preorder, s.anchorSources a = a :: rest := by
  have htall : s.tall a = a :: (a.children.flatMap Tree.preorder).filter
      fun n => s.minAnchorHeight ≤ n.height := by
    rw [tall, Tree.preorder_eq, List.filter_cons_of_pos (by simpa using hhigh)]
  obtain ⟨before, after, hsorted, hrest, hbefore⟩ := List.mergeSort_cons
    (sourceOrder_trans (places a.preorder)) (sourceOrder_total (places a.preorder)) a
    ((a.children.flatMap Tree.preorder).filter fun n => s.minAnchorHeight ≤ n.height)
  have hbelow : ∀ n ∈ before ++ after, n ∈ a.children.flatMap Tree.preorder := fun n hn =>
    (List.mem_filter.mp ((List.mergeSort_perm _ _).subset (hrest ▸ hn))).1
  -- the sort puts before the root only what the root does not precede
  have hnone : before = [] := by
    refine List.eq_nil_iff_forall_not_mem.mpr fun n hn => ?_
    have hlt := (ha.lt_of_below (hbelow n (List.mem_append_left _ hn))).2
    have hnot := hbefore n hn
    rw [sourceOrder_of_lt _ hlt] at hnot
    cases hnot
  subst hnone
  refine ⟨after, fun n hn => ?_, ?_⟩
  · exact Tree.preorder_eq a ▸ List.mem_cons_of_mem _ (hbelow n hn)
  · rw [anchorSources, htall]
    exact hsorted

/-- The root finds the root of a copy, and with it all that is below. -/
theorem anchorOne_root (hab : a.Alike b) (ha : a.Sound h) (hb : b.Sound h)
    (hna : a.Distinct) (hnb : b.Distinct) (hhigh : s.minAnchorHeight ≤ a.height) :
    anchorOne (byDigest (s.tall b)) .empty a
      = NodeMapping.empty.addAll (a.preorder.zip b.preorder) := by
  obtain ⟨hdigest, hsize, hheight⟩ := hab.summary_eq ha hb
  have hfree : ((byDigest (s.tall b)).getD a.digest []).filter
      (fun d => !NodeMapping.empty.hasDst d && d.size == a.size) = [b] := by
    -- nodes below the other root may share its digest, but not its size
    have hbelow : ∀ n ∈ b.children.flatMap Tree.preorder, (n.size == a.size) = false :=
      fun n hn => beq_eq_false_iff_ne.mpr (hsize ▸ Nat.ne_of_lt (hb.lt_of_below hn).1)
    rw [getD_byDigest, tall, Tree.preorder_eq, List.filter_filter, List.filter_filter,
      List.filter_cons_of_pos (by simp [hdigest, hsize, ← hheight, hhigh])]
    refine congrArg (b :: ·) (List.filter_eq_nil_iff.mpr fun n hn => ?_)
    simp [hbelow n hn]
  rw [anchorOne, NodeMapping.hasSrc_empty, hfree]
  exact mapSubtree_eq hna hnb (NodeMapping.free_empty _ _)

/-- Once every node has a counterpart, nothing more is anchored. -/
theorem foldl_anchorOne_of_hasSrc (table : Std.TreeMap String (List Tree)) {nodes : List Tree}
    (h : ∀ n ∈ nodes, m.hasSrc n = true) : nodes.foldl (anchorOne table) m = m :=
  foldl_eq_self fun n hn => by rw [anchorOne, if_pos (h n hn)]

/-! ### The second phase -/

variable [Score α]

/-- Once every node has a counterpart, nothing more is paired. -/
theorem propagate_of_hasSrc (h : ∀ n ∈ a.preorder, m.hasSrc n = true) : s.propagate a b m = m := by
  have hfold : a.postorder.foldl (s.propagateOne (parentsIn b) b.height) m = m := by
    refine foldl_eq_self fun n hn => ?_
    rw [propagateOne, h n (Tree.mem_postorder.mp hn), Bool.true_or, if_pos rfl]
  rw [propagate, hfold, h a a.mem_preorder_self]
  rfl

/-- Without a counterpart there is no container. -/
theorem bestContainer?_empty (parents : Std.TreeMap Nat Tree) (fuel : Nat) (src : Tree) :
    s.bestContainer? parents fuel src .empty = none := by
  have hnone : (src.preorder.filterMap fun d =>
      if d.id == src.id then none else NodeMapping.empty.mapped? d) = [] := by
    refine List.filterMap_eq_nil_iff.mpr fun d _ => ?_
    split
    · rfl
    · exact NodeMapping.mapped?_empty
  rw [bestContainer?, hnone]
  exact ite_self _

/-- Where nothing is anchored, only the roots are left to start from. -/
theorem propagate_empty (hab : a.Alike b) (ha : a.Sound h) (hb : b.Sound h) (hna : a.Distinct)
    (hnb : b.Distinct) :
    s.propagate a b .empty = NodeMapping.empty.addAll (a.preorder.zip b.preorder) := by
  have hfold : a.postorder.foldl (s.propagateOne (parentsIn b) b.height) .empty = .empty := by
    refine foldl_eq_self fun n _ => ?_
    rw [propagateOne, bestContainer?_empty]
    exact ite_self _
  have hlabel : a.label = b.label := (Tree.shape_eq_iff.mp (Tree.alike_iff.mp hab)).1
  rw [propagate, hfold, NodeMapping.hasSrc_empty, NodeMapping.hasDst_empty, hlabel]
  simp only [Bool.not_false, Bool.and_self, beq_self_eq_true, if_true]
  exact recoverChildren_alike hab ha hb hna hnb (NodeMapping.free_empty _ _)

/-! ### Both phases -/

/-- **A tree and its copy are matched position by position.** -/
theorem run_of_alike (hab : a.Alike b) (ha : a.Sound h) (hb : b.Sound h) (hna : a.Distinct)
    (hnb : b.Distinct) : s.run a b = NodeMapping.empty.addAll (a.preorder.zip b.preorder) := by
  by_cases hhigh : s.minAnchorHeight ≤ a.height
  · obtain ⟨rest, hrest, hsources⟩ := anchorSources_high s ha hhigh
    have hall := hasSrc_addAll_zip (m := .empty) hab.preorder.length_eq
    rw [run, anchor, hsources, List.foldl_cons, anchorOne_root s hab ha hb hna hnb hhigh,
      foldl_anchorOne_of_hasSrc _ fun n hn => hall n (hrest hn), propagate_of_hasSrc s hall]
  · rw [run, anchor_low s ha (by omega), propagate_empty s hab ha hb hna hnb]

/-- Each node has the node at the same position of the copy as its counterpart. -/
theorem mapped?_run_of_alike (hab : a.Alike b) (ha : a.Sound h) (hb : b.Sound h)
    (hna : a.Distinct) (hnb : b.Distinct) {n c : Tree} (hmem : (n, c) ∈ a.preorder.zip b.preorder) :
    (s.run a b).mapped? n = some c := by
  rw [run_of_alike s hab ha hb hna hnb]
  refine NodeMapping.mapped?_addAll ?_ hmem
  rw [Tree.Distinct, ← List.map_fst_zip hab.preorder.length_eq.le, List.map_map] at hna
  exact hna

/-- Every node of a subtree has its counterpart in the copy. -/
theorem matchedIn_run_of_alike (hab : a.Alike b) (ha : a.Sound h) (hb : b.Sound h)
    (hna : a.Distinct) (hnb : b.Distinct) {t : Tree} (ht : t ∈ a.preorder) :
    (s.run a b).matchedIn t = t.size := by
  rw [NodeMapping.matchedIn, ← Tree.length_preorder (ha.of_mem_preorder ht),
    List.countP_eq_length, run_of_alike s hab ha hb hna hnb]
  exact fun n hn => hasSrc_addAll_zip hab.preorder.length_eq n (Tree.preorder_subset ht hn)

end Matcher

end Lineage
