import Lineage.Proofs.Tree.Anchors
import Mathlib.Data.List.Perm.Subperm

/-!
# The correspondence is a matching

`NodeMapping.add` overwrites, so one-to-one is what each place that adds a pair must see to. Most of
them look at both nodes before they pair them. The recovery of children does not: it looks at the
children once, and what it pairs below the first of them may be a later one, where a node occurs more
than once. Such a node is an operator without children, and a node of its label and value is alike;
so the recovery goes through `Matcher.mapSubtree`, which looks again.

## Main statements

- `NodeMapping.IsMatching.add`: two free nodes of one label may be paired.
- `Matcher.recoverChildren_within`: recovery takes nothing outside the subtree it is in.
- `Matcher.recoverChildren_isMatching`: recovery keeps a matching.
- `Matcher.run_isMatching`: **the correspondence between two trees is one-to-one and keeps labels.**
-/

namespace Lineage

/-- The two tables are inverse to each other and pair nodes of the two trees that have one label. -/
structure NodeMapping.IsMatching (m : NodeMapping) (a b : Tree) : Prop where
  forward : ∀ i d, m.forward[i]? = some d → d ∈ b.preorder ∧
    ∃ s ∈ a.preorder, s.id = i ∧ s.label = d.label ∧ m.backward[d.id]? = some s
  backward : ∀ i s, m.backward[i]? = some s → s ∈ a.preorder ∧
    ∃ d ∈ b.preorder, d.id = i ∧ s.label = d.label ∧ m.forward[s.id]? = some d

/-- A node that occurs at several places of the tree is an operator: no node of its label, in this
tree or the other, has children. -/
def Tree.SharesLeaves (b a : Tree) : Prop :=
  ∀ n ∈ b.preorder, 1 < (b.preorder.map Tree.id).count n.id →
    ∀ k ∈ a.preorder ++ b.preorder, k.label = n.label → k.children = []

instance (b a : Tree) : Decidable (b.SharesLeaves a) :=
  inferInstanceAs (Decidable (∀ n ∈ b.preorder, 1 < (b.preorder.map Tree.id).count n.id →
    ∀ k ∈ a.preorder ++ b.preorder, k.label = n.label → k.children = []))

/-! ### Pairing two nodes -/

namespace NodeMapping
variable {m : NodeMapping} {a b s d : Tree}

theorem isMatching_empty (a b : Tree) : empty.IsMatching a b := by
  constructor <;> simp [empty]

theorem hasSrc_eq_false : m.hasSrc s = false ↔ m.forward[s.id]? = none := by
  rw [hasSrc, Std.TreeMap.contains_eq_isSome_getElem?, Option.isSome_eq_false_iff,
    Option.isNone_iff_eq_none]

theorem hasDst_eq_false : m.hasDst d = false ↔ m.backward[d.id]? = none := by
  rw [hasDst, Std.TreeMap.contains_eq_isSome_getElem?, Option.isSome_eq_false_iff,
    Option.isNone_iff_eq_none]

/-- Two free nodes of one label may be paired. -/
theorem IsMatching.add (hm : m.IsMatching a b) (hs : s ∈ a.preorder) (hd : d ∈ b.preorder)
    (hsrc : m.hasSrc s = false) (hdst : m.hasDst d = false) (hlabel : s.label = d.label) :
    (m.add s d).IsMatching a b := by
  rw [hasSrc_eq_false] at hsrc
  rw [hasDst_eq_false] at hdst
  have hforward : ∀ i, (m.add s d).forward[i]? = if s.id = i then some d else m.forward[i]? :=
    fun i => by simp [NodeMapping.add, Std.TreeMap.getElem?_insert]
  have hbackward : ∀ i, (m.add s d).backward[i]? = if d.id = i then some s else m.backward[i]? :=
    fun i => by simp [NodeMapping.add, Std.TreeMap.getElem?_insert]
  constructor
  · intro i e he
    rw [hforward] at he
    split at he
    · next hid =>
      obtain rfl := Option.some.inj he
      exact ⟨hd, s, hs, hid, hlabel, by rw [hbackward, if_pos rfl]⟩
    · obtain ⟨hmem, n, hn, hid, hl, hback⟩ := hm.forward i e he
      -- the counterpart of another node is not the one that was free
      have hne : d.id ≠ e.id := fun heq => by rw [heq, hback] at hdst; cases hdst
      exact ⟨hmem, n, hn, hid, hl, by rw [hbackward, if_neg hne]; exact hback⟩
  · intro i n hn
    rw [hbackward] at hn
    split at hn
    · next hid =>
      obtain rfl := Option.some.inj hn
      exact ⟨hs, d, hd, hid, hlabel, by rw [hforward, if_pos rfl]⟩
    · obtain ⟨hmem, e, he, hid, hl, hforth⟩ := hm.backward i n hn
      have hne : s.id ≠ n.id := fun heq => by rw [heq, hforth] at hsrc; cases hsrc
      exact ⟨hmem, e, he, hid, hl, by rw [hforward, if_neg hne]; exact hforth⟩

/-- What one correspondence takes beyond another has an `id` from a list. -/
def Within (m m' : NodeMapping) (ids : List Nat) : Prop :=
  ∀ d : Tree, m'.hasDst d = true → m.hasDst d = true ∨ d.id ∈ ids

theorem Within.refl (m : NodeMapping) (ids : List Nat) : m.Within m ids := fun _ => .inl

theorem Within.mono {m' : NodeMapping} {ids ids' : List Nat} (h : m.Within m' ids)
    (hsub : ids ⊆ ids') : m.Within m' ids' :=
  fun d hd => (h d hd).imp_right fun hid => hsub hid

theorem Within.trans {m' m'' : NodeMapping} {ids : List Nat} (h : m.Within m' ids)
    (h' : m'.Within m'' ids) : m.Within m'' ids :=
  fun d hd => (h' d hd).elim (h d) .inr

theorem within_add {ids : List Nat} (hd : d.id ∈ ids) : m.Within (m.add s d) ids :=
  fun _ he => (hasDst_add.mp he).elim (fun hid => .inr (hid ▸ hd)) .inl

end NodeMapping

namespace Matcher
variable {h : ByteArray → String} {a b src dst : Tree} {m : NodeMapping}

/-! ### Whole subtrees -/

/-- What holds at the start and survives the pairing of free nodes at one position holds after two
subtrees are paired. -/
theorem mapSubtree_induction {P : NodeMapping → Prop} (h0 : P m)
    (hadd : ∀ m p, p ∈ src.preorder.zip dst.preorder → m.hasSrc p.1 = false →
      m.hasDst p.2 = false → P m → P (m.add p.1 p.2)) : P (mapSubtree src dst m) := by
  rw [mapSubtree]
  refine List.foldlRecOn _ _ h0 fun m hm p hp => ?_
  dsimp only
  split
  · next hfree =>
    simp only [Bool.and_eq_true, Bool.not_eq_true'] at hfree
    exact hadd m p hp hfree.1 hfree.2 hm
  · exact hm

theorem mapSubtree_within : m.Within (mapSubtree src dst m) (dst.preorder.map Tree.id) :=
  mapSubtree_induction (P := fun m' => m.Within m' _) (.refl m _) fun _ _ hp _ _ hm =>
    hm.trans (NodeMapping.within_add (List.mem_map_of_mem (List.of_mem_zip hp).2))

theorem mapSubtree_isMatching (hm : m.IsMatching a b) (hsrc : src ∈ a.preorder)
    (hdst : dst ∈ b.preorder) (hab : src.Alike dst) : (mapSubtree src dst m).IsMatching a b :=
  mapSubtree_induction (P := fun m => m.IsMatching a b) hm fun _ _ hp hs hd hm =>
    hm.add (Tree.preorder_subset hsrc (List.of_mem_zip hp).1)
      (Tree.preorder_subset hdst (List.of_mem_zip hp).2) hs hd
      (Tree.shape_eq_iff.mp (Tree.alike_iff.mp (hab.of_mem_zip hp))).1

theorem anchorOne_isMatching (hm : m.IsMatching a b) (hsrc : src ∈ a.preorder)
    (htell : a.DigestsTell b) {nodes : List Tree} (hnodes : nodes ⊆ b.preorder) :
    (anchorOne (byDigest nodes) m src).IsMatching a b := by
  rw [anchorOne]
  split
  · exact hm
  dsimp only
  split
  · exact hm
  · next dst hdst =>
    have hmem := nearest?_mem hdst
    rw [getD_byDigest, List.mem_filter, List.mem_filter] at hmem
    obtain ⟨⟨hdst, hdigest⟩, -⟩ := hmem
    exact mapSubtree_isMatching hm hsrc (hnodes hdst)
      (htell src hsrc dst (hnodes hdst) (beq_iff_eq.mp hdigest).symm)

theorem anchor_isMatching {α : Type} (s : Matcher α) (htell : a.DigestsTell b) :
    (s.anchor a b .empty).IsMatching a b := by
  rw [anchor]
  refine List.foldlRecOn (motive := fun m : NodeMapping => m.IsMatching a b) _ _
    (NodeMapping.isMatching_empty a b) fun m hm n hn => ?_
  have hn := (List.mem_filter.mp ((mem_anchorSources s).mp hn)).1
  exact anchorOne_isMatching hm hn htell fun k hk => (List.mem_filter.mp hk).1

/-! ### Recovery of children -/

theorem takeLike_spec {child found : Tree} {free rest : List Tree}
    (ht : takeLike child free = some (found, rest)) :
    found.label = child.label ∧ found.value = child.value ∧ (found :: rest).Perm free := by
  induction free generalizing rest with
  | nil => cases ht
  | cons c cs ih =>
    rw [takeLike] at ht
    split at ht
    · next hlike =>
      obtain ⟨rfl, rfl⟩ := Prod.mk.inj (Option.some.inj ht)
      simp only [Bool.and_eq_true, beq_iff_eq] at hlike
      exact ⟨hlike.1, hlike.2, .refl _⟩
    · obtain ⟨⟨t, ts⟩, htail, heq⟩ := Option.map_eq_some_iff.mp ht
      obtain ⟨rfl, rfl⟩ := Prod.mk.inj heq
      obtain ⟨hlabel, hvalue, hperm⟩ := ih htail
      exact ⟨hlabel, hvalue, (List.Perm.swap c t ts).trans (hperm.cons c)⟩

mutual

/-- The recovery below two nodes takes nothing but what is below the second. -/
theorem recoverChildren_within (src : Tree) {dst : Tree} {m : NodeMapping} :
    m.Within (recoverChildren src dst m) (dst.preorder.map Tree.id) := by
  cases src with
  | mk id label value lines digest size height children =>
    rw [recoverChildren]
    refine (recoverAmong_within children).mono fun i hi => ?_
    obtain ⟨n, hn, rfl⟩ := List.mem_map.mp hi
    obtain ⟨c, hc, hn⟩ := List.mem_flatMap.mp hn
    exact List.mem_map_of_mem
      (Tree.mem_preorder.mpr (.inr ⟨c, (List.mem_filter.mp hc).1, hn⟩))

/-- The recovery among free trees takes nothing but what is in them. -/
theorem recoverAmong_within (children : List Tree) {free : List Tree} {m : NodeMapping} :
    m.Within (recoverAmong children free m) ((free.flatMap Tree.preorder).map Tree.id) := by
  cases children with
  | nil => exact .refl m _
  | cons child rest =>
    rw [recoverAmong]
    split
    · exact recoverAmong_within rest
    split
    · exact recoverAmong_within rest
    · next found free' hfound =>
      obtain ⟨-, -, hperm⟩ := takeLike_spec hfound
      have hin : ∀ t ∈ found :: free', t.preorder.map Tree.id
          ⊆ (free.flatMap Tree.preorder).map Tree.id := fun t ht => List.map_subset _ fun n hn =>
        List.mem_flatMap.mpr ⟨t, hperm.subset ht, hn⟩
      have hrest : (free'.flatMap Tree.preorder).map Tree.id
          ⊆ (free.flatMap Tree.preorder).map Tree.id := by
        refine List.map_subset _ fun n hn => ?_
        obtain ⟨t, ht, hn⟩ := List.mem_flatMap.mp hn
        exact List.mem_flatMap.mpr ⟨t, hperm.subset (List.mem_cons_of_mem _ ht), hn⟩
      have hfound := hin found List.mem_cons_self
      split
      · exact (mapSubtree_within.mono hfound).trans ((recoverAmong_within rest).mono hrest)
      · have hself := NodeMapping.within_add (m := m) (s := child)
          (hfound (List.mem_map_of_mem found.mem_preorder_self))
        exact hself.trans (((recoverChildren_within child).mono hfound).trans
          ((recoverAmong_within rest).mono hrest))

end

/-- Trees that stand at different places of the second tree, where only a node that occurs at several
places is taken. -/
structure Spare (b : Tree) (m : NodeMapping) (free : List Tree) : Prop where
  places : (free.flatMap Tree.preorder).Subperm b.preorder
  recurs : ∀ c ∈ free, m.hasDst c = true → 1 < (b.preorder.map Tree.id).count c.id

theorem spare_children (hdst : dst ∈ b.preorder) :
    Spare b m (dst.children.filter fun c => !m.hasDst c) := by
  constructor
  · have hchildren : (dst.children.flatMap Tree.preorder).Sublist dst.preorder :=
      Tree.preorder_eq dst ▸ List.sublist_cons_self ..
    exact ((List.filter_sublist.flatMap Tree.preorder).trans
      (hchildren.trans (Tree.sublist_preorder hdst))).subperm
  · intro c hc htaken
    simp only [List.mem_filter, htaken, Bool.not_true, Bool.false_eq_true, and_false] at hc

theorem Spare.perm {free free' : List Tree} (hfree : Spare b m free) (hperm : free'.Perm free) :
    Spare b m free' :=
  ⟨(hperm.flatMap_right Tree.preorder).subperm.trans hfree.places,
    fun c hc => hfree.recurs c (hperm.subset hc)⟩

/-- What is taken below one of the trees recurs among the others. -/
theorem Spare.tail {found : Tree} {free : List Tree} {m' : NodeMapping}
    (hfree : Spare b m (found :: free)) (hm : m.Within m' (found.preorder.map Tree.id)) :
    Spare b m' free := by
  have hplaces := hfree.places
  rw [List.flatMap_cons] at hplaces
  refine ⟨(List.sublist_append_right ..).subperm.trans hplaces, fun c hc htaken => ?_⟩
  rcases hm c htaken with htaken | hid
  · exact hfree.recurs c (List.mem_cons_of_mem _ hc) htaken
  · -- one place is below the tree that was found, the other among those left
    obtain ⟨l, hl, hsublist⟩ := hplaces
    have hcount := (hsublist.map Tree.id).count_le c.id
    rw [(hl.map Tree.id).count_eq, List.map_append, List.count_append] at hcount
    have hbelow := List.count_pos_iff.mpr hid
    have hleft : 0 < ((free.flatMap Tree.preorder).map Tree.id).count c.id :=
      List.count_pos_iff.mpr (List.mem_map_of_mem
        (List.mem_flatMap.mpr ⟨c, hc, c.mem_preorder_self⟩))
    omega

theorem alike_of_childless (hlabel : src.label = dst.label) (hvalue : src.value = dst.value)
    (hsrc : src.children = []) (hdst : dst.children = []) : src.Alike dst :=
  Tree.alike_iff.mpr (Tree.shape_eq_iff.mpr ⟨hlabel, hvalue, by rw [hsrc, hdst]⟩)

/-- What is asked of two trees: sound summaries, digests that do not collide, and no nodes that occur
at several places of the second but operators. -/
structure Comparable (h : ByteArray → String) (a b : Tree) : Prop where
  src : a.Sound h
  dst : b.Sound h
  tell : a.DigestsTell b
  share : b.SharesLeaves a

/-- A node that recurs has the digest and the size of every node of its label and value. -/
theorem Comparable.same_of_recurs (hab : Comparable h a b) {child found : Tree}
    (hchild : child ∈ a.preorder) (hfound : found ∈ b.preorder)
    (hlabel : found.label = child.label) (hvalue : found.value = child.value)
    (hrecurs : 1 < (b.preorder.map Tree.id).count found.id) :
    found.digest = child.digest ∧ found.size = child.size := by
  have hleaf := hab.share found hfound hrecurs
  have halike := alike_of_childless hlabel hvalue
    (hleaf found (List.mem_append_right _ hfound) rfl)
    (hleaf child (List.mem_append_left _ hchild) hlabel.symm)
  obtain ⟨hdigest, hsize, -⟩ := halike.summary_eq (hab.dst.of_mem_preorder hfound)
    (hab.src.of_mem_preorder hchild)
  exact ⟨hdigest, hsize⟩

mutual

/-- The recovery below two nodes keeps a matching. -/
theorem recoverChildren_isMatching (hab : Comparable h a b) (src : Tree) (hsrc : src ∈ a.preorder)
    {dst : Tree} (hdst : dst ∈ b.preorder) {m : NodeMapping} (hm : m.IsMatching a b) :
    (recoverChildren src dst m).IsMatching a b := by
  cases src with
  | mk id label value lines digest size height children =>
    rw [recoverChildren]
    refine recoverAmong_isMatching hab children (fun c hc => ?_) (spare_children hdst) hm
    exact Tree.preorder_subset hsrc (Tree.mem_preorder.mpr (.inr ⟨c, hc, c.mem_preorder_self⟩))

/-- The recovery among free trees keeps a matching, even if some of them have been taken. -/
theorem recoverAmong_isMatching (hab : Comparable h a b) (children : List Tree)
    (hchildren : ∀ c ∈ children, c ∈ a.preorder) {free : List Tree} {m : NodeMapping}
    (hfree : Spare b m free) (hm : m.IsMatching a b) :
    (recoverAmong children free m).IsMatching a b := by
  cases children with
  | nil => exact hm
  | cons child rest =>
    obtain ⟨hchild, hrest⟩ := List.forall_mem_cons.mp hchildren
    rw [recoverAmong]
    split
    · exact recoverAmong_isMatching hab rest hrest hfree hm
    next hsrc =>
    split
    · exact recoverAmong_isMatching hab rest hrest hfree hm
    next found free' hfound =>
    obtain ⟨hlabel, hvalue, hperm⟩ := takeLike_spec hfound
    have hfree := hfree.perm hperm
    have hfound : found ∈ b.preorder := hfree.places.subset
      (List.mem_flatMap.mpr ⟨found, List.mem_cons_self, found.mem_preorder_self⟩)
    split
    · next hsame =>
      rw [Bool.and_eq_true, beq_iff_eq, beq_iff_eq] at hsame
      have halike := hab.tell child hchild found hfound hsame.1.symm
      exact recoverAmong_isMatching hab rest hrest (hfree.tail mapSubtree_within)
        (mapSubtree_isMatching hm hchild hfound halike)
    · next hdiffers =>
      have hdst : m.hasDst found = false := by
        by_contra htaken
        obtain ⟨hdigest, hsize⟩ := hab.same_of_recurs hchild hfound hlabel hvalue
          (hfree.recurs found List.mem_cons_self (by simpa using htaken))
        exact hdiffers (by rw [hdigest, hsize, beq_self_eq_true, beq_self_eq_true, Bool.and_self])
      have hpair := hm.add hchild hfound (by simpa using hsrc) hdst hlabel.symm
      have hwithin := (NodeMapping.within_add (m := m) (s := child)
        (List.mem_map_of_mem found.mem_preorder_self)).trans (recoverChildren_within child)
      exact recoverAmong_isMatching hab rest hrest (hfree.tail hwithin)
        (recoverChildren_isMatching hab child hchild hfound hpair)

end

/-! ### Containers -/

/-- A parent that is looked up is a node of the tree. -/
theorem parentsIn_mem {t n : Tree} {i : Nat} (hn : (parentsIn t)[i]? = some n) :
    n ∈ t.preorder := by
  let Parents (table : Std.TreeMap Nat Tree) : Prop :=
    ∀ (i : Nat) n, table[i]? = some n → n ∈ t.preorder
  have hinsert : ∀ table c p, Parents table → p ∈ t.preorder → Parents (table.insert c p) := by
    intro table c p htable hp i n hn
    rw [Std.TreeMap.getElem?_insert] at hn
    split at hn
    · exact Option.some.inj hn ▸ hp
    · exact htable i n hn
  have hparents : Parents (parentsIn t) := by
    refine List.foldlRecOn (motive := Parents) t.preorder _ (by simp [Parents]) ?_
    exact fun table htable p hp => List.foldlRecOn (motive := Parents) p.children _ htable
      fun table htable c _ => hinsert table c.id p htable hp
  exact hparents i n hn

theorem ancestors_mem {parents : Std.TreeMap Nat Tree} {fuel : Nat} {t n : Tree}
    (hn : n ∈ ancestors parents fuel t) : ∃ i : Nat, parents[i]? = some n := by
  induction fuel generalizing t with
  | zero => cases hn
  | succ fuel ih =>
    rw [ancestors] at hn
    split at hn
    · cases hn
    · next p hp =>
      rcases List.mem_cons.mp hn with rfl | hn
      · exact ⟨_, hp⟩
      · exact ih hn

theorem mem_tally {nodes : List Tree} {p : Tree × Nat} (hp : p ∈ tally nodes) : p.1 ∈ nodes := by
  obtain ⟨n, hn, rfl⟩ := List.mem_map.mp hp
  rw [List.mem_reverse] at hn
  revert hn
  refine List.foldlRecOn (motive := fun seen : Std.TreeMap Nat Unit × List Tree =>
    n ∈ seen.2 → n ∈ nodes) nodes _ ?_ fun seen hseen k hk hn => ?_
  · exact fun hn => absurd hn List.not_mem_nil
  · split at hn
    · exact hseen hn
    · rcases List.mem_cons.mp hn with rfl | hn
      · exact hk
      · exact hseen hn

variable {α : Type} [Score α] (s : Matcher α)

/-- A container is a free node of the second tree with the label that was asked for. -/
theorem bestContainer?_spec {fuel : Nat}
    (hbest : s.bestContainer? (parentsIn b) fuel src m = some dst) :
    dst ∈ b.preorder ∧ m.hasDst dst = false ∧ src.label = dst.label := by
  rw [bestContainer?] at hbest
  dsimp only at hbest
  set above := (src.preorder.filterMap fun d => if d.id == src.id then none else m.mapped? d).flatMap
    fun c => (ancestors (parentsIn b) fuel c).filter fun a => a.label == src.label && !m.hasDst a
    with habove
  split at hbest
  · have hmem : dst ∈ above := by
      revert hbest
      refine List.foldlRecOn (motive := fun best : Option Tree × α =>
        best.1 = some dst → dst ∈ above) (tally above) _ (fun hnone => by cases hnone)
        fun best hbest p hp hdst => ?_
      split at hdst
      · exact Option.some.inj hdst ▸ mem_tally hp
      · exact hbest hdst
    obtain ⟨c, -, hdst⟩ := List.mem_flatMap.mp hmem
    obtain ⟨hdst, hfit⟩ := List.mem_filter.mp hdst
    obtain ⟨i, hi⟩ := ancestors_mem hdst
    simp only [Bool.and_eq_true, beq_iff_eq, Bool.not_eq_true'] at hfit
    exact ⟨parentsIn_mem hi, hfit.2, hfit.1.symm⟩
  · cases hbest

theorem propagateOne_isMatching (hab : Comparable h a b) (hsrc : src ∈ a.preorder) {fuel : Nat}
    (hm : m.IsMatching a b) : (s.propagateOne (parentsIn b) fuel m src).IsMatching a b := by
  rw [propagateOne]
  split
  · exact hm
  next hskip =>
  split
  · exact hm
  · next dst hbest =>
    rw [Bool.or_eq_true, not_or, Bool.not_eq_true] at hskip
    obtain ⟨hdst, hfree, hlabel⟩ := s.bestContainer?_spec hbest
    exact recoverChildren_isMatching hab src hsrc hdst (hm.add hsrc hdst hskip.1 hfree hlabel)

theorem propagate_isMatching (hab : Comparable h a b) (hm : m.IsMatching a b) :
    (s.propagate a b m).IsMatching a b := by
  rw [propagate]
  have hm : (a.postorder.foldl (s.propagateOne (parentsIn b) b.height) m).IsMatching a b :=
    List.foldlRecOn (motive := fun m : NodeMapping => m.IsMatching a b) _ _ hm
      fun m hm n hn => s.propagateOne_isMatching hab (Tree.mem_postorder.mp hn) hm
  split
  · next hroots =>
    simp only [Bool.and_eq_true, Bool.not_eq_true', beq_iff_eq] at hroots
    exact recoverChildren_isMatching hab a a.mem_preorder_self b.mem_preorder_self
      (hm.add a.mem_preorder_self b.mem_preorder_self hroots.1.1 hroots.1.2 hroots.2)
  · exact hm

/-- **The correspondence between two trees is one-to-one and keeps labels**, if no node of the second
tree occurs at several places but operators, whose labels no node with children has. -/
theorem run_isMatching (hab : Comparable h a b) : (s.run a b).IsMatching a b :=
  s.propagate_isMatching hab (anchor_isMatching s hab.tell)

/-! ### A sum of three names -/

/-- The sum of three names with the given operators. -/
def sumOf (first : String) (inner outer : Nat) : Tree :=
  .node 0 "BinOp" "" ⟨1, 1⟩
    [.node 1 "BinOp" "" ⟨1, 1⟩ [.node 2 "Name" first ⟨1, 1⟩ [], .node inner "Add" "" ⟨1, 1⟩ [],
      .node 3 "Name" "y" ⟨1, 1⟩ []],
    .node outer "Add" "" ⟨1, 1⟩ [], .node 4 "Name" "z" ⟨1, 1⟩ []]

theorem sound_sumOf (first : String) (inner outer : Nat) :
    (sumOf first inner outer).Sound Tree.hash := by
  have hleaf : ∀ id label value lines, (Tree.node id label value lines []).Sound Tree.hash :=
    fun _ _ _ _ => Tree.sound_node nofun
  have hthree : ∀ id label t u v, t.Sound Tree.hash → u.Sound Tree.hash → v.Sound Tree.hash →
      (Tree.node id label "" ⟨1, 1⟩ [t, u, v]).Sound Tree.hash := by
    intro id label t u v ht hu hv
    refine Tree.sound_node fun c hc => ?_
    simp only [List.mem_cons, List.not_mem_nil, or_false] at hc
    rcases hc with rfl | rfl | rfl <;> assumption
  exact hthree _ _ _ _ _ (hthree _ _ _ _ _ (hleaf ..) (hleaf ..) (hleaf ..)) (hleaf ..) (hleaf ..)

/-- Two sums of three names. The operator of the second occurs at both places: below the inner sums
it is paired with the inner operator of the first, and what is left for the outer one is taken. -/
theorem run_isMatching_sharedOperator :
    (sumOf "x" 5 6).Sound Tree.hash ∧ (sumOf "w" 5 5).Sound Tree.hash ∧
    (sumOf "x" 5 6).DigestsTell (sumOf "w" 5 5) ∧ (sumOf "w" 5 5).SharesLeaves (sumOf "x" 5 6) ∧
    ¬ (sumOf "w" 5 5).Distinct ∧
    (Matcher.run (⟨4, 0.5⟩ : Matcher Float) (sumOf "x" 5 6) (sumOf "w" 5 5)).IsMatching
      (sumOf "x" 5 6) (sumOf "w" 5 5) ∧
    (Matcher.run (⟨4, 0.5⟩ : Matcher Float) (sumOf "x" 5 6) (sumOf "w" 5 5)).size = 5 := by
  have htell : (sumOf "x" 5 6).DigestsTell (sumOf "w" 5 5) := by decide +kernel
  have hshare : (sumOf "w" 5 5).SharesLeaves (sumOf "x" 5 6) := by decide +kernel
  have hmatching := run_isMatching (⟨4, 0.5⟩ : Matcher Float)
    ⟨sound_sumOf "x" 5 6, sound_sumOf "w" 5 5, htell, hshare⟩
  refine ⟨sound_sumOf .., sound_sumOf .., htell, hshare, by decide, hmatching, ?_⟩
  rw [run, anchor_low _ (sound_sumOf "x" 5 6) (by decide)]
  decide +kernel

end Matcher

end Lineage
