import Lineage.Proofs.Tree.Identical

/-!
# What the first phase anchors

The first phase pairs subtrees that are alike, the highest first. As long as no node occurs twice, a
subtree that is free at its root is free altogether: a pair made before it is at least as high, so it
would have to hold the whole subtree or nothing of it (`Tree.Distinct.apart`). Hence the pairs made
are those of some pairs of roots with all that is below them, and no pair is ever left out.

## Main statements

- `Matcher.anchorOne_step`: what one source adds.
- `Matcher.foldl_anchorOne`: what all sources add, as long as they come by falling height.
- `Matcher.anchors_whole_and_maximal`: **the first phase pairs whole subtrees, and leaves a high node
  out only if every node with its digest is taken.**
-/

namespace Lineage

theorem NodeMapping.hasSrc_of_mapped? {m : NodeMapping} {n c : Tree} (hc : m.mapped? n = some c) :
    m.hasSrc n = true := by
  rw [hasSrc, Std.TreeMap.contains_eq_isSome_getElem?, ← mapped?, hc]
  rfl

theorem exists_mem_zip_of_mem {α β : Type} {as : List α} {bs : List β}
    (hlength : as.length = bs.length) {a : α} (ha : a ∈ as) : ∃ b, (a, b) ∈ as.zip bs := by
  rw [← List.map_fst_zip hlength.le] at ha
  obtain ⟨⟨a, b⟩, hmem, rfl⟩ := List.mem_map.mp ha
  exact ⟨b, hmem⟩

theorem exists_mem_zip_of_mem_right {α β : Type} {as : List α} {bs : List β}
    (hlength : as.length = bs.length) {b : β} (hb : b ∈ bs) : ∃ a, (a, b) ∈ as.zip bs := by
  rw [← List.map_snd_zip hlength.ge] at hb
  obtain ⟨⟨a, b⟩, hmem, rfl⟩ := List.mem_map.mp hb
  exact ⟨a, hmem⟩

namespace Tree
variable {h : ByteArray → String} {a b s t n k d e : Tree}

/-- The node at a position, which says at each level the number of the child to go down to. -/
def at? : List Nat → Tree → Option Tree
  | [], t => some t
  | i :: position, t => t.children[i]?.bind (at? position)

/-- No digest of a node of one tree collides with that of a node of the other. -/
def DigestsTell (a b : Tree) : Prop :=
  ∀ n ∈ a.preorder, ∀ k ∈ b.preorder, n.digest = k.digest → n.Alike k

instance (a b : Tree) : Decidable (DigestsTell a b) :=
  inferInstanceAs (Decidable (∀ n ∈ a.preorder, ∀ k ∈ b.preorder, n.digest = k.digest → n.Alike k))

/-! ### Subtrees of a tree without shared nodes -/

theorem Distinct.eq_of_id (ht : t.Distinct) (hn : n ∈ t.preorder) (hk : k ∈ t.preorder)
    (hid : n.id = k.id) : n = k :=
  List.inj_on_of_nodup_map ht hn hk hid

theorem sublist_preorder (hs : s ∈ t.preorder) : s.preorder.Sublist t.preorder := by
  induction t using induction with
  | h t ih =>
    rcases mem_preorder.mp hs with rfl | ⟨c, hc, hs⟩
    · exact List.Sublist.refl _
    · have hchild := (List.singleton_sublist.mpr hc).flatMap preorder
      rw [List.flatMap_singleton] at hchild
      exact preorder_eq t ▸ ((ih c hc hs).trans hchild).cons t

theorem Distinct.of_mem_preorder (ht : t.Distinct) (hs : s ∈ t.preorder) : s.Distinct :=
  ht.sublist ((sublist_preorder hs).map id)

/-- Of two subtrees that share a node, one holds the other. -/
theorem Distinct.nested (ht : t.Distinct) (hs : s ∈ t.preorder) (hn : n ∈ t.preorder)
    (hks : k ∈ s.preorder) (hkn : k ∈ n.preorder) : s ∈ n.preorder ∨ n ∈ s.preorder := by
  induction t using induction with
  | h t ih =>
    rcases mem_preorder.mp hs with rfl | ⟨c, hc, hsc⟩
    · exact .inr hn
    rcases mem_preorder.mp hn with rfl | ⟨c', hc', hnc⟩
    · exact .inl hs
    -- both stand below one child, since the children share no node
    have hchild : c = c' := by
      rw [Distinct, preorder_eq, List.map_cons, List.map_flatMap] at ht
      exact Sequence.eq_of_mem_pieces (List.nodup_cons.mp ht).2 hc hc'
        (List.mem_map_of_mem (preorder_subset hsc hks))
        (List.mem_map_of_mem (preorder_subset hnc hkn))
    subst hchild
    refine ih c hc (ht.of_mem_preorder ?_) hsc hnc
    exact mem_preorder.mpr (.inr ⟨c, hc, c.mem_preorder_self⟩)

/-- A subtree that is not below another, which is at least as high, shares no node with it. -/
theorem Distinct.apart (ht : t.Distinct) (hsound : t.Sound h) (hs : s ∈ t.preorder)
    (hn : n ∈ t.preorder) (hheight : n.height ≤ s.height) (hnot : n ∉ s.preorder) :
    List.Disjoint (s.preorder.map id) (n.preorder.map id) := by
  intro i his hin
  obtain ⟨k, hks, rfl⟩ := List.mem_map.mp his
  obtain ⟨k', hkn, hid⟩ := List.mem_map.mp hin
  obtain rfl := ht.eq_of_id (preorder_subset hs hks) (preorder_subset hn hkn) hid.symm
  rcases ht.nested hs hn hks hkn with hsn | hns
  · rcases mem_preorder.mp hsn with rfl | hbelow
    · exact hnot s.mem_preorder_self
    · have hlt := ((hsound.of_mem_preorder hn).lt_of_below (List.mem_flatMap.mpr hbelow)).2
      omega
  · exact hnot hns

/-! ### Positions in trees that are alike -/

theorem Alike.mem_zip_preorder (hab : a.Alike b) : (d, e) ∈ a.preorder.zip b.preorder ↔
    d = a ∧ e = b ∨
      ∃ p ∈ a.children.zip b.children, (d, e) ∈ p.1.preorder.zip p.2.preorder := by
  rw [preorder_eq a, preorder_eq b, List.zip_cons_cons,
    Sequence.zip_flatMap (hab.children.imp fun _ _ hc => hc.preorder.length_eq), List.mem_cons,
    List.mem_flatMap, Prod.mk.injEq]

theorem Alike.of_mem_zip (hab : a.Alike b) (hmem : (n, k) ∈ a.preorder.zip b.preorder) :
    n.Alike k :=
  (List.forall₂_iff_zip.mp hab.preorder).2 hmem

/-- Below two nodes at one position the positions are those of the whole trees. -/
theorem Alike.zip_subset (hab : a.Alike b) (hmem : (n, k) ∈ a.preorder.zip b.preorder) :
    n.preorder.zip k.preorder ⊆ a.preorder.zip b.preorder := by
  induction a using induction generalizing b with
  | h a ih =>
    rcases hab.mem_zip_preorder.mp hmem with ⟨rfl, rfl⟩ | ⟨⟨c, c'⟩, hc, hmem⟩
    · exact List.Subset.refl _
    · have hcc' : c.Alike c' := (List.forall₂_iff_zip.mp hab.children).2 hc
      have hbelow := ih c (List.of_mem_zip hc).1 hcc' hmem
      exact fun ⟨d, e⟩ hde => hab.mem_zip_preorder.mpr (.inr ⟨(c, c'), hc, hbelow hde⟩)

theorem Alike.at? (hab : a.Alike b) {position : List Nat} (hd : a.at? position = some d) :
    ∃ e, b.at? position = some e ∧ (d, e) ∈ a.preorder.zip b.preorder := by
  induction position generalizing a b with
  | nil =>
    obtain rfl := Option.some.inj hd
    exact ⟨b, rfl, hab.mem_zip_preorder.mpr (.inl ⟨rfl, rfl⟩)⟩
  | cons i position ih =>
    obtain ⟨c, hc, hd⟩ := Option.bind_eq_some_iff.mp hd
    obtain ⟨hi, rfl⟩ := List.getElem?_eq_some_iff.mp hc
    have hi' : i < b.children.length := hab.children.length_eq ▸ hi
    obtain ⟨e, he, hmem⟩ := ih (hab.children.get hi hi') hd
    refine ⟨e, by rw [Tree.at?, List.getElem?_eq_getElem hi']; exact he, ?_⟩
    have hzip : (a.children[i], b.children[i]) ∈ a.children.zip b.children :=
      List.mem_iff_getElem.mpr ⟨i, List.length_zip ▸ Nat.lt_min.mpr ⟨hi, hi'⟩, List.getElem_zip⟩
    exact hab.mem_zip_preorder.mpr (.inr ⟨_, hzip, hmem⟩)

end Tree

namespace Matcher
variable {h : ByteArray → String} {a b n : Tree} {roots : List (Tree × Tree)}

/-- The pairs of some pairs of roots with all that is below them. -/
def whole (roots : List (Tree × Tree)) : List (Tree × Tree) :=
  roots.flatMap fun p => p.1.preorder.zip p.2.preorder

/-- The correspondence that pairs whole subtrees. -/
def paired (roots : List (Tree × Tree)) : NodeMapping :=
  NodeMapping.empty.addAll (whole roots)

/-- Roots of subtrees of two trees that are alike and share no node on the first side. -/
structure Anchored (a b : Tree) (roots : List (Tree × Tree)) : Prop where
  src : ∀ p ∈ roots, p.1 ∈ a.preorder
  dst : ∀ p ∈ roots, p.2 ∈ b.preorder
  alike : ∀ p ∈ roots, p.1.Alike p.2
  once : ((roots.flatMap fun p => p.1.preorder).map Tree.id).Nodup

theorem anchored_nil (a b : Tree) : Anchored a b [] :=
  ⟨nofun, nofun, nofun, List.nodup_nil⟩

/-- A node that has a counterpart, or all whose likes in the second tree are counterparts. -/
def Settled (b : Tree) (m : NodeMapping) (n : Tree) : Prop :=
  m.hasSrc n = true ∨ ∀ k ∈ b.preorder, k.digest = n.digest → m.hasDst k = true

theorem Settled.append {new : List (Tree × Tree)} (hn : Settled b (paired roots) n) :
    Settled b (paired (roots ++ new)) n := by
  rw [paired, whole, List.flatMap_append, NodeMapping.addAll_append]
  exact hn.imp (fun hsrc => NodeMapping.hasSrc_addAll.mpr (.inr hsrc))
    fun hdst k hk hdigest => NodeMapping.hasDst_addAll.mpr (.inr (hdst k hk hdigest))

/-! ### What is paired so far -/

namespace Anchored

theorem map_fst (hr : Anchored a b roots) :
    (whole roots).map Prod.fst = roots.flatMap fun p => p.1.preorder := by
  rw [whole, List.map_flatMap]
  refine List.flatMap_congr fun p hp => List.map_fst_zip (hr.alike p hp).preorder.length_eq.le

theorem map_snd (hr : Anchored a b roots) :
    (whole roots).map Prod.snd = roots.flatMap fun p => p.2.preorder := by
  rw [whole, List.map_flatMap]
  refine List.flatMap_congr fun p hp => List.map_snd_zip (hr.alike p hp).preorder.length_eq.ge

theorem exists_of_hasSrc (hr : Anchored a b roots) (hsrc : (paired roots).hasSrc n = true) :
    ∃ p ∈ roots, n.id ∈ p.1.preorder.map Tree.id := by
  rcases NodeMapping.hasSrc_addAll.mp hsrc with ⟨q, hq, hid⟩ | hsrc
  · have hmem := List.mem_map_of_mem (f := Prod.fst) hq
    rw [hr.map_fst] at hmem
    obtain ⟨p, hp, hmem⟩ := List.mem_flatMap.mp hmem
    exact ⟨p, hp, hid ▸ List.mem_map_of_mem hmem⟩
  · exact absurd (NodeMapping.hasSrc_empty.symm.trans hsrc) Bool.false_ne_true

theorem exists_of_hasDst (hr : Anchored a b roots) (hdst : (paired roots).hasDst n = true) :
    ∃ p ∈ roots, n.id ∈ p.2.preorder.map Tree.id := by
  rcases NodeMapping.hasDst_addAll.mp hdst with ⟨q, hq, hid⟩ | hdst
  · have hmem := List.mem_map_of_mem (f := Prod.snd) hq
    rw [hr.map_snd] at hmem
    obtain ⟨p, hp, hmem⟩ := List.mem_flatMap.mp hmem
    exact ⟨p, hp, hid ▸ List.mem_map_of_mem hmem⟩
  · exact absurd (NodeMapping.hasDst_empty.symm.trans hdst) Bool.false_ne_true

theorem hasSrc_iff (hr : Anchored a b roots) (ha : a.Distinct) (hn : n ∈ a.preorder) :
    (paired roots).hasSrc n = true ↔ ∃ p ∈ roots, n ∈ p.1.preorder := by
  constructor
  · intro hsrc
    obtain ⟨p, hp, hid⟩ := hr.exists_of_hasSrc hsrc
    obtain ⟨d, hd, hid⟩ := List.mem_map.mp hid
    exact ⟨p, hp, ha.eq_of_id (Tree.preorder_subset (hr.src p hp) hd) hn hid ▸ hd⟩
  · rintro ⟨p, hp, hmem⟩
    have hmem' := hr.map_fst ▸ List.mem_flatMap.mpr ⟨p, hp, hmem⟩
    obtain ⟨q, hq, rfl⟩ := List.mem_map.mp hmem'
    exact NodeMapping.hasSrc_addAll.mpr (.inl ⟨q, hq, rfl⟩)

theorem hasDst_of_mem (hr : Anchored a b roots) {p : Tree × Tree} (hp : p ∈ roots)
    (hn : n ∈ p.2.preorder) : (paired roots).hasDst n = true := by
  have hmem := hr.map_snd ▸ List.mem_flatMap.mpr ⟨p, hp, hn⟩
  obtain ⟨q, hq, rfl⟩ := List.mem_map.mp hmem
  exact NodeMapping.hasDst_addAll.mpr (.inl ⟨q, hq, rfl⟩)

theorem mapped? (hr : Anchored a b roots) {k : Tree} (hmem : (n, k) ∈ whole roots) :
    (paired roots).mapped? n = some k := by
  refine NodeMapping.mapped?_addAll ?_ hmem
  have honce := hr.once
  rw [← hr.map_fst, List.map_map] at honce
  exact honce

/-- Two subtrees that no root holds are free if the roots are at least as high. -/
theorem free (hr : Anchored a b roots) {k : Tree}
    (hsrc : ∀ p ∈ roots, List.Disjoint (p.1.preorder.map Tree.id) (n.preorder.map Tree.id))
    (hdst : ∀ p ∈ roots, List.Disjoint (p.2.preorder.map Tree.id) (k.preorder.map Tree.id)) :
    (paired roots).Free n.preorder k.preorder := by
  constructor
  · intro d hd
    refine Bool.eq_false_iff.mpr fun hhas => ?_
    obtain ⟨p, hp, hid⟩ := hr.exists_of_hasSrc hhas
    exact hsrc p hp hid (List.mem_map_of_mem hd)
  · intro d hd
    refine Bool.eq_false_iff.mpr fun hhas => ?_
    obtain ⟨p, hp, hid⟩ := hr.exists_of_hasDst hhas
    exact hdst p hp hid (List.mem_map_of_mem hd)

/-- One more pair of roots. -/
theorem append (hr : Anchored a b roots) {k : Tree} (hn : n ∈ a.preorder) (hk : k ∈ b.preorder)
    (hnk : n.Alike k) (ha : a.Distinct)
    (hsrc : ∀ p ∈ roots, List.Disjoint (p.1.preorder.map Tree.id) (n.preorder.map Tree.id)) :
    Anchored a b (roots ++ [(n, k)]) := by
  refine ⟨?_, ?_, ?_, ?_⟩
  · exact List.forall_mem_append.mpr ⟨hr.src, List.forall_mem_singleton.mpr hn⟩
  · exact List.forall_mem_append.mpr ⟨hr.dst, List.forall_mem_singleton.mpr hk⟩
  · exact List.forall_mem_append.mpr ⟨hr.alike, List.forall_mem_singleton.mpr hnk⟩
  · rw [List.flatMap_append, List.flatMap_singleton, List.map_append]
    refine hr.once.append (ha.of_mem_preorder hn) fun i hi => ?_
    rw [List.map_flatMap] at hi
    obtain ⟨p, hp, hi⟩ := List.mem_flatMap.mp hi
    exact hsrc p hp hi

end Anchored

theorem nearest?_eq_none {line : Int} {l : List Tree} (hl : nearest? line l = none) : l = [] := by
  cases l with
  | nil => rfl
  | cons u l => cases hl

theorem nearest?_mem {line : Int} {l : List Tree} {t : Tree} (ht : nearest? line l = some t) :
    t ∈ l := by
  cases l with
  | nil => cases ht
  | cons u l =>
    obtain rfl := Option.some.inj ht
    refine List.foldlRecOn l _ List.mem_cons_self fun best hbest d hd => ?_
    split
    · exact List.mem_cons_of_mem _ hd
    · exact hbest

/-! ### One source -/

variable {α : Type} (s : Matcher α)

/-- The nodes that are looked up for a high source are those of the other tree with its digest that
are no counterparts yet. -/
theorem mem_likes (ha : a.Sound h) (hb : b.Sound h) (htell : a.DigestsTell b) (hn : n ∈ a.preorder)
    (htall : s.minAnchorHeight ≤ n.height) {m : NodeMapping} {k : Tree} :
    k ∈ ((byDigest (s.tall b)).getD n.digest []).filter
        (fun d => !m.hasDst d && d.size == n.size) ↔
      k ∈ b.preorder ∧ k.digest = n.digest ∧ m.hasDst k = false := by
  rw [getD_byDigest, List.mem_filter, List.mem_filter, tall, List.mem_filter]
  simp only [Bool.and_eq_true, Bool.not_eq_true', beq_iff_eq, decide_eq_true_eq]
  constructor
  · rintro ⟨⟨⟨hk, -⟩, hdigest⟩, hfree, -⟩
    exact ⟨hk, hdigest, hfree⟩
  · rintro ⟨hk, hdigest, hfree⟩
    obtain ⟨-, hsize, hheight⟩ := (htell n hn k hk hdigest.symm).summary_eq
      (ha.of_mem_preorder hn) (hb.of_mem_preorder hk)
    exact ⟨⟨⟨hk, hheight ▸ htall⟩, hdigest⟩, hfree, hsize.symm⟩

/-- Two subtrees that are alike and free at their roots, and at most as high as all that is paired,
are paired whole. -/
theorem Anchored.pair (hr : Anchored a b roots) (ha : a.Sound h) (hb : b.Sound h)
    (hna : a.Distinct) (hnb : b.Distinct) (hn : n ∈ a.preorder) {k : Tree} (hk : k ∈ b.preorder)
    (hnk : n.Alike k) (hsrc : (paired roots).hasSrc n ≠ true)
    (hdst : (paired roots).hasDst k = false) (hlow : ∀ p ∈ roots, n.height ≤ p.1.height) :
    mapSubtree n k (paired roots) = paired (roots ++ [(n, k)]) ∧
      Anchored a b (roots ++ [(n, k)]) := by
  obtain ⟨-, -, hheight⟩ := hnk.summary_eq (ha.of_mem_preorder hn) (hb.of_mem_preorder hk)
  have hsrcs : ∀ p ∈ roots,
      List.Disjoint (p.1.preorder.map Tree.id) (n.preorder.map Tree.id) := fun p hp =>
    hna.apart ha (hr.src p hp) hn (hlow p hp)
      fun hmem => hsrc ((hr.hasSrc_iff hna hn).mpr ⟨p, hp, hmem⟩)
  have hdsts : ∀ p ∈ roots,
      List.Disjoint (p.2.preorder.map Tree.id) (k.preorder.map Tree.id) := by
    intro p hp
    obtain ⟨-, -, hroots⟩ := (hr.alike p hp).summary_eq (ha.of_mem_preorder (hr.src p hp))
      (hb.of_mem_preorder (hr.dst p hp))
    refine hnb.apart hb (hr.dst p hp) hk (hheight ▸ hroots ▸ hlow p hp) fun hmem => ?_
    exact Bool.false_ne_true (hdst.symm.trans (hr.hasDst_of_mem hp hmem))
  refine ⟨?_, hr.append hn hk hnk hna hsrcs⟩
  rw [mapSubtree_eq (hna.of_mem_preorder hn) (hnb.of_mem_preorder hk) (hr.free hsrcs hdsts),
    paired, paired, whole, whole, List.flatMap_append, List.flatMap_singleton,
    NodeMapping.addAll_append]

/-- A source that is at most as high as all that is paired adds one pair of whole subtrees, unless
it is settled already. -/
theorem anchorOne_step (ha : a.Sound h) (hb : b.Sound h) (hna : a.Distinct) (hnb : b.Distinct)
    (htell : a.DigestsTell b) (hr : Anchored a b roots) (hn : n ∈ a.preorder)
    (htall : s.minAnchorHeight ≤ n.height) (hlow : ∀ p ∈ roots, n.height ≤ p.1.height) :
    ∃ new, anchorOne (byDigest (s.tall b)) (paired roots) n = paired (roots ++ new) ∧
      Anchored a b (roots ++ new) ∧ (∀ p ∈ new, p.1 = n) ∧ Settled b (paired (roots ++ new)) n := by
  -- a source that is settled adds nothing
  have hstays : ∀ m : NodeMapping, m = paired roots → Settled b (paired roots) n →
      ∃ new, m = paired (roots ++ new) ∧ Anchored a b (roots ++ new) ∧ (∀ p ∈ new, p.1 = n) ∧
        Settled b (paired (roots ++ new)) n := by
    rintro _ rfl hsettled
    refine ⟨[], ?_⟩
    rw [List.append_nil]
    exact ⟨rfl, hr, List.forall_mem_nil _, hsettled⟩
  rw [anchorOne]
  split
  · next hsrc => exact hstays _ rfl (.inl hsrc)
  next hsrc =>
  dsimp only
  split
  · next hnone =>
    refine hstays _ rfl (.inr fun k hk hdigest => ?_)
    by_contra hfree
    have hmem := (s.mem_likes ha hb htell hn htall).mpr ⟨hk, hdigest, Bool.eq_false_iff.mpr hfree⟩
    rw [nearest?_eq_none hnone] at hmem
    cases hmem
  · next k hk =>
    obtain ⟨hk, hdigest, hfree⟩ := (s.mem_likes ha hb htell hn htall).mp (nearest?_mem hk)
    obtain ⟨hpaired, hnew⟩ :=
      hr.pair ha hb hna hnb hn hk (htell n hn k hk hdigest.symm) hsrc hfree hlow
    refine ⟨[(n, k)], hpaired, hnew, List.forall_mem_singleton.mpr rfl, .inl ?_⟩
    exact (hnew.hasSrc_iff hna hn).mpr
      ⟨(n, k), List.mem_append_right _ (List.mem_singleton.mpr rfl), n.mem_preorder_self⟩

/-! ### All sources -/

/-- Sources that come by falling height add pairs of whole subtrees until all are settled. -/
theorem foldl_anchorOne (ha : a.Sound h) (hb : b.Sound h) (hna : a.Distinct) (hnb : b.Distinct)
    (htell : a.DigestsTell b) {sources : List Tree} (hsources : ∀ n ∈ sources, n ∈ s.tall a)
    (hfalling : sources.Pairwise fun n k => k.height ≤ n.height) (hr : Anchored a b roots)
    (hlow : ∀ p ∈ roots, ∀ n ∈ sources, n.height ≤ p.1.height) :
    ∃ new, sources.foldl (anchorOne (byDigest (s.tall b))) (paired roots) = paired (roots ++ new) ∧
      Anchored a b (roots ++ new) ∧ ∀ n ∈ sources, Settled b (paired (roots ++ new)) n := by
  -- on the sources: the roots stay as high as every source that is still to come
  induction sources generalizing roots with
  | nil => exact ⟨[], by rw [List.append_nil]; rfl, by rwa [List.append_nil], nofun⟩
  | cons n sources ih =>
    obtain ⟨hhigh, hfalling⟩ := List.pairwise_cons.mp hfalling
    obtain ⟨hn, htall⟩ := List.mem_filter.mp (hsources n List.mem_cons_self)
    obtain ⟨first, hfirst, hr', hroot, hsettled⟩ := anchorOne_step s ha hb hna hnb htell hr hn
      (of_decide_eq_true htall) fun p hp => hlow p hp n List.mem_cons_self
    have hlow' : ∀ p ∈ roots ++ first, ∀ k ∈ sources, k.height ≤ p.1.height := by
      intro p hp k hk
      rcases List.mem_append.mp hp with hp | hp
      · exact hlow p hp k (List.mem_cons_of_mem _ hk)
      · exact hroot p hp ▸ hhigh k hk
    obtain ⟨later, hlater, hr'', hall⟩ :=
      ih (fun k hk => hsources k (List.mem_cons_of_mem _ hk)) hfalling hr' hlow'
    rw [List.append_assoc] at hlater hr'' hall
    refine ⟨first ++ later, by rw [List.foldl_cons, hfirst, hlater], hr'', fun k hk => ?_⟩
    rcases List.mem_cons.mp hk with rfl | hk
    · exact List.append_assoc roots first later ▸ hsettled.append
    · exact hall k hk

theorem anchorSources_falling (t : Tree) :
    (s.anchorSources t).Pairwise fun n k => k.height ≤ n.height := by
  refine (List.pairwise_mergeSort (sourceOrder_trans (places t.preorder))
    (sourceOrder_total (places t.preorder)) (s.tall t)).imp fun {n k} horder => ?_
  rw [sourceOrder] at horder
  split at horder
  · next heq => exact heq.ge
  · exact Nat.le_of_lt (of_decide_eq_true horder)

theorem mem_anchorSources {t : Tree} : n ∈ s.anchorSources t ↔ n ∈ s.tall t :=
  List.mem_mergeSort

/-- The first phase pairs some whole subtrees, and every source is settled by them. -/
theorem anchor_eq_paired (ha : a.Sound h) (hb : b.Sound h) (hna : a.Distinct) (hnb : b.Distinct)
    (htell : a.DigestsTell b) : ∃ roots, s.anchor a b .empty = paired roots ∧
      Anchored a b roots ∧ ∀ n ∈ s.tall a, Settled b (paired roots) n := by
  obtain ⟨roots, hroots, hr, hsettled⟩ := foldl_anchorOne s ha hb hna hnb htell
    (fun n hn => (mem_anchorSources s).mp hn) (anchorSources_falling s a) (anchored_nil a b) nofun
  exact ⟨roots, hroots, hr, fun n hn => hsettled n ((mem_anchorSources s).mpr hn)⟩

/-- **The first phase pairs whole subtrees, and leaves a high node out only if every node with its
digest is taken.** Where a node has a counterpart, the node at each position below it has the node
at that position below the counterpart. -/
theorem anchors_whole_and_maximal (ha : a.Sound h) (hb : b.Sound h) (hna : a.Distinct)
    (hnb : b.Distinct) (htell : a.DigestsTell b) :
    (∀ n ∈ a.preorder, ∀ c, (s.anchor a b .empty).mapped? n = some c →
      c ∈ b.preorder ∧ ∀ position d, n.at? position = some d →
        ∃ e, c.at? position = some e ∧ (s.anchor a b .empty).mapped? d = some e) ∧
    ∀ n ∈ a.preorder, s.minAnchorHeight ≤ n.height → (s.anchor a b .empty).hasSrc n = false →
      ∀ k ∈ b.preorder, k.digest = n.digest → (s.anchor a b .empty).hasDst k = true := by
  obtain ⟨roots, hroots, hr, hsettled⟩ := anchor_eq_paired s ha hb hna hnb htell
  rw [hroots]
  constructor
  · intro n hn c hc
    obtain ⟨p, hp, hmem⟩ := (hr.hasSrc_iff hna hn).mp (NodeMapping.hasSrc_of_mapped? hc)
    obtain ⟨c', hc'⟩ := exists_mem_zip_of_mem (hr.alike p hp).preorder.length_eq hmem
    obtain rfl := Option.some.inj <|
      hc.symm.trans (hr.mapped? (List.mem_flatMap.mpr ⟨p, hp, hc'⟩))
    refine ⟨Tree.preorder_subset (hr.dst p hp) (List.of_mem_zip hc').2, fun position d hd => ?_⟩
    obtain ⟨e, he, hde⟩ := ((hr.alike p hp).of_mem_zip hc').at? hd
    exact ⟨e, he, hr.mapped? (List.mem_flatMap.mpr ⟨p, hp, (hr.alike p hp).zip_subset hc' hde⟩)⟩
  · intro n hn htall hsrc k hk hdigest
    rcases hsettled n (List.mem_filter.mpr ⟨hn, decide_eq_true htall⟩) with hhas | hdst
    · exact absurd (hsrc.symm.trans hhas) Bool.false_ne_true
    · exact hdst k hk hdigest

/-! ### A statement that stands twice -/

/-- A statement that holds a name, with the nodes `id` and `id + 1`. -/
def statementAt (id : Nat) (name : String) (line : Int) : Tree :=
  .node id "Expr" "" ⟨line, line⟩ [.node (id + 1) "Name" name ⟨line, line⟩ []]

/-- A file of two statements. -/
def fileOfTwo (first second : String) : Tree :=
  .node 0 "Module" "" ⟨1, 2⟩ [statementAt 1 first 1, statementAt 3 second 2]

theorem sound_statementAt (id : Nat) (name : String) (line : Int) :
    (statementAt id name line).Sound Tree.hash :=
  Tree.sound_node (List.forall_mem_singleton.mpr (Tree.sound_node nofun))

theorem sound_fileOfTwo (first second : String) : (fileOfTwo first second).Sound Tree.hash := by
  refine Tree.sound_node fun c hc => ?_
  rcases List.mem_pair.mp hc with rfl | rfl <;> exact sound_statementAt ..

/-- Two equal statements compete for one: the first takes it with what is below it, and nothing is
left for the second. -/
theorem anchors_whole_and_maximal_competing :
    (fileOfTwo "f" "f").Distinct ∧ (fileOfTwo "g" "f").Distinct ∧
    (fileOfTwo "f" "f").DigestsTell (fileOfTwo "g" "f") ∧
    (∃ c ∈ (fileOfTwo "g" "f").preorder, c.id = 3 ∧
      ∃ e, c.at? [0] = some e ∧ (Matcher.anchor (⟨2, 0.5⟩ : Matcher Float) (fileOfTwo "f" "f")
        (fileOfTwo "g" "f") .empty).mapped? (.node 2 "Name" "f" ⟨1, 1⟩ []) = some e) ∧
    (Matcher.anchor (⟨2, 0.5⟩ : Matcher Float) (fileOfTwo "f" "f")
      (fileOfTwo "g" "f") .empty).hasDst (statementAt 3 "f" 2) = true := by
  have hna : (fileOfTwo "f" "f").Distinct := by decide
  have hnb : (fileOfTwo "g" "f").Distinct := by decide
  have htell : (fileOfTwo "f" "f").DigestsTell (fileOfTwo "g" "f") := by decide +kernel
  obtain ⟨hwhole, hmaximal⟩ := anchors_whole_and_maximal (⟨2, 0.5⟩ : Matcher Float)
    (sound_fileOfTwo "f" "f") (sound_fileOfTwo "g" "f") hna hnb htell
  -- the high nodes stand in the order in which they are taken
  have hsources : Matcher.anchorSources (⟨2, 0.5⟩ : Matcher Float) (fileOfTwo "f" "f")
      = Matcher.tall (⟨2, 0.5⟩ : Matcher Float) (fileOfTwo "f" "f") :=
    List.mergeSort_of_pairwise (by decide +kernel)
  have hfirst : ((Matcher.anchor (⟨2, 0.5⟩ : Matcher Float) (fileOfTwo "f" "f")
      (fileOfTwo "g" "f") .empty).mapped? (statementAt 1 "f" 1)).map Tree.id = some 3 := by
    rw [anchor, hsources]
    decide +kernel
  have hsecond : (Matcher.anchor (⟨2, 0.5⟩ : Matcher Float) (fileOfTwo "f" "f")
      (fileOfTwo "g" "f") .empty).hasSrc (statementAt 3 "f" 2) = false := by
    rw [anchor, hsources]
    decide +kernel
  have hstatements : ∀ name, statementAt 1 "f" 1 ∈ (fileOfTwo "f" name).preorder ∧
      statementAt 3 name 2 ∈ (fileOfTwo "f" name).preorder := fun name =>
    ⟨List.mem_cons_of_mem _ List.mem_cons_self,
      List.mem_cons_of_mem _ (List.mem_cons_of_mem _ (List.mem_cons_of_mem _ List.mem_cons_self))⟩
  obtain ⟨c, hc, hid⟩ := Option.map_eq_some_iff.mp hfirst
  obtain ⟨hmem, hbelow⟩ := hwhole _ (hstatements "f").1 c hc
  refine ⟨hna, hnb, htell, ⟨c, hmem, hid, hbelow [0] _ rfl⟩, ?_⟩
  exact hmaximal _ (hstatements "f").2 (by decide) hsecond _
    (List.mem_cons_of_mem _ (List.mem_cons_of_mem _ (List.mem_cons_of_mem _ List.mem_cons_self)))
    rfl

end Matcher

end Lineage
