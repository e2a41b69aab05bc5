import Lineage.Proofs.Tree.Pairing

/-!
# A subtree that occurs once

The second phase only adds pairs: wherever it pairs two nodes it has seen that the first has no
counterpart yet (`Matcher.propagate_keeps`). So what the first phase has anchored stays. A subtree
that is high enough and has one like it in the second tree is anchored with that one: it takes the
copy, or both go with something larger that holds them at one position
(`Matcher.mapped?_run_of_unique`).
-/

namespace Lineage

/-- In a list in which one value of a function comes from one place, it comes from one element. -/
theorem eq_of_count_eq_one {β γ : Type} [DecidableEq γ] {f : β → γ} {l : List β} {v : γ}
    (hcount : (l.map f).count v = 1) {x y : β} (hx : x ∈ l) (hy : y ∈ l) (hfx : f x = v)
    (hfy : f y = v) : x = y := by
  rw [List.count, List.countP_map, List.countP_eq_length_filter] at hcount
  obtain ⟨z, hz⟩ := List.length_eq_one_iff.mp hcount
  have honly : ∀ w ∈ l, f w = v → w = z := by
    intro w hw hfw
    have hmem : w ∈ l.filter ((· == v) ∘ f) := List.mem_filter.mpr ⟨hw, by simpa using hfw⟩
    exact List.mem_singleton.mp (hz ▸ hmem)
  rw [honly x hx hfx, honly y hy hfy]

/-! ### Counterparts that are kept -/

namespace NodeMapping
variable {m m' m'' : NodeMapping} {s d : Tree}

/-- Counterparts stay what they are. -/
def Keeps (m m' : NodeMapping) : Prop :=
  ∀ n c, m.mapped? n = some c → m'.mapped? n = some c

theorem Keeps.refl (m : NodeMapping) : m.Keeps m := fun _ _ hc => hc

theorem Keeps.trans (h : m.Keeps m') (h' : m'.Keeps m'') : m.Keeps m'' :=
  fun n c hc => h' n c (h n c hc)

/-- Pairing a node that has no counterpart keeps those of the others. -/
theorem keeps_add (hsrc : m.hasSrc s = false) : m.Keeps (m.add s d) := by
  intro n c hc
  rw [mapped?_add]
  split
  · next hid =>
    rw [hasSrc_eq_false, hid, ← mapped?, hc] at hsrc
    cases hsrc
  · exact hc

end NodeMapping

namespace Matcher
variable {h : ByteArray → String} {a b src dst : Tree} {m : NodeMapping}

theorem mapSubtree_keeps : m.Keeps (mapSubtree src dst m) :=
  mapSubtree_induction (P := fun m' => m.Keeps m') (.refl m) fun _ _ _ hsrc _ hm =>
    hm.trans (NodeMapping.keeps_add hsrc)

mutual

/-- The recovery below two nodes keeps what is paired. -/
theorem recoverChildren_keeps (src : Tree) {dst : Tree} {m : NodeMapping} :
    m.Keeps (recoverChildren src dst m) := by
  cases src with
  | mk id label value lines digest size height children =>
    rw [recoverChildren]
    exact recoverAmong_keeps children

/-- The recovery among free trees keeps what is paired. -/
theorem recoverAmong_keeps (children : List Tree) {free : List Tree} {m : NodeMapping} :
    m.Keeps (recoverAmong children free m) := by
  cases children with
  | nil => exact .refl m
  | cons child rest =>
    rw [recoverAmong]
    split
    · exact recoverAmong_keeps rest
    next hsrc =>
    split
    · exact recoverAmong_keeps rest
    next found free' hfound =>
    split
    · exact mapSubtree_keeps.trans (recoverAmong_keeps rest)
    · have hself : m.Keeps (m.add child found) := NodeMapping.keeps_add (Bool.eq_false_iff.mpr hsrc)
      exact hself.trans ((recoverChildren_keeps child).trans (recoverAmong_keeps rest))

end

variable {α : Type} [Score α] (s : Matcher α)

theorem propagateOne_keeps {parents : Std.TreeMap Nat Tree} {fuel : Nat} :
    m.Keeps (s.propagateOne parents fuel m src) := by
  rw [propagateOne]
  split
  · exact .refl m
  next hskip =>
  rw [Bool.or_eq_true, not_or, Bool.not_eq_true] at hskip
  split
  · exact .refl m
  · exact (NodeMapping.keeps_add hskip.1).trans (recoverChildren_keeps src)

/-- The second phase keeps what is paired. -/
theorem propagate_keeps : m.Keeps (s.propagate a b m) := by
  rw [propagate]
  have hfold : m.Keeps (a.postorder.foldl (s.propagateOne (parentsIn b) b.height) m) :=
    List.foldlRecOn (motive := fun m' : NodeMapping => m.Keeps m') _ _ (.refl m)
      fun _ hm _ _ => hm.trans (s.propagateOne_keeps)
  split
  · next hroots =>
    simp only [Bool.and_eq_true, Bool.not_eq_true'] at hroots
    exact hfold.trans ((NodeMapping.keeps_add hroots.1.1).trans (recoverChildren_keeps a))
  · exact hfold

/-! ### A subtree with one like it -/

/-- A settled node whose digest occurs once in each tree stands below one of the roots, and its like
stands at that position below the other. -/
theorem Anchored.mem_zip_of_settled {roots : List (Tree × Tree)} (hr : Anchored a b roots)
    (ha : a.Sound h) (hb : b.Sound h) (hna : a.Distinct) (hnb : b.Distinct) {t k : Tree}
    (ht : t ∈ a.preorder) (hk : k ∈ b.preorder) (hdigest : k.digest = t.digest)
    (honce : (a.preorder.map Tree.digest).count t.digest = 1)
    (honce' : (b.preorder.map Tree.digest).count t.digest = 1)
    (hsettled : Settled b (paired roots) t) :
    ∃ p ∈ roots, (t, k) ∈ p.1.preorder.zip p.2.preorder := by
  -- what stands at one position below two roots has one digest
  have hsame : ∀ p ∈ roots, ∀ d e, (d, e) ∈ p.1.preorder.zip p.2.preorder →
      d ∈ a.preorder ∧ e ∈ b.preorder ∧ d.digest = e.digest := by
    intro p hp d e hmem
    have hd := Tree.preorder_subset (hr.src p hp) (List.of_mem_zip hmem).1
    have he := Tree.preorder_subset (hr.dst p hp) (List.of_mem_zip hmem).2
    have halike := (hr.alike p hp).of_mem_zip hmem
    exact ⟨hd, he, (halike.summary_eq (ha.of_mem_preorder hd) (hb.of_mem_preorder he)).1⟩
  rcases hsettled with hsrc | hdsts
  · obtain ⟨p, hp, hmem⟩ := (hr.hasSrc_iff hna ht).mp hsrc
    obtain ⟨e, he⟩ := exists_mem_zip_of_mem (hr.alike p hp).preorder.length_eq hmem
    obtain ⟨-, heb, hde⟩ := hsame p hp t e he
    obtain rfl := eq_of_count_eq_one honce' heb hk hde.symm hdigest
    exact ⟨p, hp, he⟩
  · -- the one like it is taken, and only this node can have taken it
    obtain ⟨p, hp, hid⟩ := hr.exists_of_hasDst (hdsts k hk hdigest)
    obtain ⟨k', hk', hid⟩ := List.mem_map.mp hid
    have hmem := hnb.eq_of_id (Tree.preorder_subset (hr.dst p hp) hk') hk hid ▸ hk'
    obtain ⟨d, hde⟩ := exists_mem_zip_of_mem_right (hr.alike p hp).preorder.length_eq hmem
    obtain ⟨hda, -, hsame⟩ := hsame p hp d k hde
    obtain rfl := eq_of_count_eq_one honce hda ht (hsame.trans hdigest) rfl
    exact ⟨p, hp, hde⟩

/-- **A high subtree whose digest occurs once in each tree is matched with its like, position by
position.** -/
theorem mapped?_run_of_unique (ha : a.Sound h) (hb : b.Sound h) (hna : a.Distinct)
    (hnb : b.Distinct) (htell : a.DigestsTell b) {t k : Tree} (ht : t ∈ a.preorder)
    (htall : s.minAnchorHeight ≤ t.height) (hk : k ∈ b.preorder) (hdigest : k.digest = t.digest)
    (honce : (a.preorder.map Tree.digest).count t.digest = 1)
    (honce' : (b.preorder.map Tree.digest).count t.digest = 1) :
    ∀ d e, (d, e) ∈ t.preorder.zip k.preorder → (s.run a b).mapped? d = some e := by
  intro d e hde
  obtain ⟨roots, hroots, hr, hsettled⟩ := anchor_eq_paired s ha hb hna hnb htell
  obtain ⟨p, hp, hmem⟩ := hr.mem_zip_of_settled ha hb hna hnb ht hk hdigest honce honce'
    (hsettled t (List.mem_filter.mpr ⟨ht, decide_eq_true htall⟩))
  have hbelow := (hr.alike p hp).zip_subset hmem hde
  have hanchored : (s.anchor a b .empty).mapped? d = some e := by
    rw [hroots]
    exact hr.mapped? (List.mem_flatMap.mpr ⟨p, hp, hbelow⟩)
  exact s.propagate_keeps d e hanchored

end Matcher

end Lineage
