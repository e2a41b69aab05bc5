import Lineage.Proofs.Sequence.Pieces
import Lineage.Proofs.Tree.Digest

/-!
# The nodes of a tree

A tree lists itself first and then the nodes of its children, one child after the other
(`preorder_eq`). So what holds of all nodes is proved by going down to the children, and in a tree
with sound summaries every node below the root is smaller and lower than the root.

## Main statements

- `Tree.length_preorder`: the size of a sound tree is the number of its nodes.
- `Tree.alike_iff`: two trees are alike exactly if they have one shape.
- `Tree.Alike.preorder`: **the nodes of alike trees are alike position by position.**
-/

namespace Lineage

theorem Sequence.le_total {ns : List Nat} {n : Nat} (hn : n ∈ ns) : n ≤ total ns := by
  induction ns with
  | nil => cases hn
  | cons k ns ih =>
    rw [total]
    rcases List.mem_cons.mp hn with rfl | hn
    · exact Nat.le_add_right ..
    · exact Nat.le_trans (ih hn) (Nat.le_add_left ..)

theorem le_foldl_max {ns : List Nat} {n : Nat} (hn : n ∈ ns) (m : Nat) : n ≤ ns.foldl max m := by
  rw [List.foldl_max]
  cases hmax : ns.max? with
  | none => exact absurd (List.max?_eq_none_iff.mp hmax ▸ hn) (List.not_mem_nil)
  | some k =>
    exact Nat.le_trans ((List.max?_le_iff hmax).mp (Nat.le_refl k) n hn) (Nat.le_max_right ..)

theorem map_eq_map_iff_zip {α β γ : Type} {as : List α} {bs : List β} (f : α → γ) (g : β → γ) :
    as.map f = bs.map g ↔ as.length = bs.length ∧ ∀ p ∈ as.zip bs, f p.1 = g p.2 := by
  rw [← List.forall₂_eq_eq_eq, List.forall₂_map_left_iff, List.forall₂_map_right_iff,
    List.forall₂_iff_zip]
  exact and_congr_right fun _ => ⟨fun h p hp => h hp, fun h _ _ hp => h _ hp⟩

/-! ### Equality of shapes -/

namespace Shape

mutual

/-- Whether two shapes are equal. -/
def decEq : (s s' : Shape) → Decidable (s = s')
  | node label value children, node label' value' children' =>
    haveI := decEqAll children children'
    decidable_of_iff (label = label' ∧ value = value' ∧ children = children') (by rw [node.injEq])

/-- Whether two lists of shapes are equal. -/
def decEqAll : (ss ss' : List Shape) → Decidable (ss = ss')
  | [], [] => isTrue rfl
  | [], _ :: _ => isFalse nofun
  | _ :: _, [] => isFalse nofun
  | s :: ss, s' :: ss' =>
    haveI := decEq s s'
    haveI := decEqAll ss ss'
    decidable_of_iff (s = s' ∧ ss = ss') (by rw [List.cons.injEq])

end

instance : DecidableEq Shape := decEq

end Shape

namespace Tree

/-- What holds of a tree if it holds of its children holds of every tree. -/
theorem induction {P : Tree → Prop} (h : ∀ t, (∀ c ∈ t.children, P c) → P t) (t : Tree) : P t := by
  have hlt : ∀ c ∈ t.children, sizeOf c < sizeOf t := by
    intro c hc
    cases t
    have := List.sizeOf_lt_of_mem hc
    simp only [mk.sizeOf_spec, children] at this ⊢
    omega
  exact h t fun c hc => induction h c
termination_by sizeOf t
decreasing_by exact hlt c hc

/-! ### Parents first and children first -/

mutual

theorem preorderOnto_eq (t : Tree) (rest : List Tree) :
    t.preorderOnto rest = t.preorder ++ rest := by
  cases t with
  | mk id label value lines digest size height children =>
    rw [preorder, preorderOnto, preorderOnto, preorderAllOnto_eq children rest,
      preorderAllOnto_eq children [], List.append_nil, List.cons_append]

theorem preorderAllOnto_eq (ts rest : List Tree) :
    preorderAllOnto ts rest = ts.flatMap preorder ++ rest := by
  cases ts with
  | nil => rfl
  | cons t ts =>
    rw [preorderAllOnto, preorderAllOnto_eq ts rest, preorderOnto_eq t _, List.flatMap_cons,
      List.append_assoc]

end

theorem preorder_eq (t : Tree) : t.preorder = t :: t.children.flatMap preorder := by
  cases t
  rw [preorder, preorderOnto, preorderAllOnto_eq, List.append_nil, children]

mutual

theorem postorderOnto_eq (t : Tree) (rest : List Tree) :
    t.postorderOnto rest = t.postorder ++ rest := by
  cases t with
  | mk id label value lines digest size height children =>
    rw [postorder, postorderOnto, postorderOnto, postorderAllOnto_eq children _,
      postorderAllOnto_eq children [_], List.append_assoc, List.singleton_append]

theorem postorderAllOnto_eq (ts rest : List Tree) :
    postorderAllOnto ts rest = ts.flatMap postorder ++ rest := by
  cases ts with
  | nil => rfl
  | cons t ts =>
    rw [postorderAllOnto, postorderAllOnto_eq ts rest, postorderOnto_eq t _, List.flatMap_cons,
      List.append_assoc]

end

theorem postorder_eq (t : Tree) : t.postorder = t.children.flatMap postorder ++ [t] := by
  cases t
  rw [postorder, postorderOnto, postorderAllOnto_eq, children]

theorem mem_preorder {t s : Tree} : s ∈ t.preorder ↔ s = t ∨ ∃ c ∈ t.children, s ∈ c.preorder := by
  rw [preorder_eq, List.mem_cons, List.mem_flatMap]

theorem mem_preorder_self (t : Tree) : t ∈ t.preorder :=
  mem_preorder.mpr (.inl rfl)

theorem preorder_subset {t s : Tree} (hs : s ∈ t.preorder) : s.preorder ⊆ t.preorder := by
  induction t using induction with
  | h t ih =>
    rcases mem_preorder.mp hs with rfl | ⟨c, hc, hs⟩
    · exact List.Subset.refl _
    · exact fun n hn => mem_preorder.mpr (.inr ⟨c, hc, ih c hc hs hn⟩)

/-- Both walks visit the same nodes. -/
theorem mem_postorder {t s : Tree} : s ∈ t.postorder ↔ s ∈ t.preorder := by
  induction t using induction with
  | h t ih =>
    rw [postorder_eq, mem_preorder, List.mem_append, List.mem_flatMap, List.mem_singleton, or_comm]
    exact or_congr_right (exists_congr fun c => and_congr_right fun hc => ih c hc)

/-! ### Summaries -/

variable {h : ByteArray → String} {t s c : Tree}

theorem Sound.of_mem_preorder (ht : Sound h t) (hs : s ∈ t.preorder) : Sound h s := by
  induction t using induction with
  | h t ih =>
    rcases mem_preorder.mp hs with rfl | ⟨c, hc, hs⟩
    · exact ht
    · exact ih c hc (ht.of_mem_children hc) hs

theorem Sound.digest_eq (ht : Sound h t) :
    t.digest = h (message t.label t.value (t.children.map digest)) := by
  cases ht
  rfl

theorem Sound.size_eq (ht : Sound h t) : t.size = 1 + Sequence.total (t.children.map size) := by
  cases ht
  rfl

theorem Sound.height_eq (ht : Sound h t) : t.height = 1 + (t.children.map height).foldl max 0 := by
  cases ht
  rfl

theorem Sound.size_lt (ht : Sound h t) (hc : c ∈ t.children) : c.size < t.size := by
  have hle := Sequence.le_total (List.mem_map_of_mem (f := size) hc)
  rw [ht.size_eq]
  omega

theorem Sound.height_lt (ht : Sound h t) (hc : c ∈ t.children) : c.height < t.height := by
  have hle := le_foldl_max (List.mem_map_of_mem (f := height) hc) 0
  rw [ht.height_eq]
  omega

theorem Sound.le_of_mem_preorder (ht : Sound h t) (hs : s ∈ t.preorder) :
    s.size ≤ t.size ∧ s.height ≤ t.height := by
  induction t using induction with
  | h t ih =>
    rcases mem_preorder.mp hs with rfl | ⟨c, hc, hs⟩
    · exact ⟨Nat.le_refl _, Nat.le_refl _⟩
    · obtain ⟨hsize, hheight⟩ := ih c hc (ht.of_mem_children hc) hs
      exact ⟨Nat.le_trans hsize (Nat.le_of_lt (ht.size_lt hc)),
        Nat.le_trans hheight (Nat.le_of_lt (ht.height_lt hc))⟩

/-- A node below the root is smaller and lower than the root. -/
theorem Sound.lt_of_below (ht : Sound h t) (hs : s ∈ t.children.flatMap preorder) :
    s.size < t.size ∧ s.height < t.height := by
  obtain ⟨c, hc, hs⟩ := List.mem_flatMap.mp hs
  obtain ⟨hsize, hheight⟩ := (ht.of_mem_children hc).le_of_mem_preorder hs
  exact ⟨Nat.lt_of_le_of_lt hsize (ht.size_lt hc), Nat.lt_of_le_of_lt hheight (ht.height_lt hc)⟩

/-- The size of a sound tree is the number of its nodes. -/
theorem length_preorder (ht : Sound h t) : t.preorder.length = t.size := by
  induction t using induction with
  | h t ih =>
    rw [preorder_eq, List.length_cons, Sequence.length_flatMap, ht.size_eq, Nat.add_comm,
      List.map_congr_left fun c hc => ih c hc (ht.of_mem_children hc)]

/-! ### Nodes that occur once -/

/-- No node of the tree occurs twice. -/
def Distinct (t : Tree) : Prop := (t.preorder.map id).Nodup

instance (t : Tree) : Decidable t.Distinct := inferInstanceAs (Decidable (List.Nodup _))

/-! ### Trees that are alike -/

theorem shape_eq_iff {a b : Tree} : a.shape = b.shape ↔
    a.label = b.label ∧ a.value = b.value ∧ a.children.map shape = b.children.map shape := by
  cases a
  cases b
  rw [shape, shape, Shape.node.injEq, shapes_eq_map, shapes_eq_map]
  rfl

/-- Two trees are alike exactly if they have one shape. -/
theorem alike_iff {a b : Tree} : Alike a b ↔ a.shape = b.shape := by
  constructor
  · intro hab
    induction hab with
    | node hlength _ ih =>
      exact shape_eq_iff.mpr ⟨rfl, rfl, (map_eq_map_iff_zip _ _).mpr ⟨hlength, ih⟩⟩
  · intro hab
    induction a using induction generalizing b with
    | h a ih =>
      obtain ⟨hlabel, hvalue, hchildren⟩ := shape_eq_iff.mp hab
      obtain ⟨hlength, hall⟩ := (map_eq_map_iff_zip _ _).mp hchildren
      cases a
      cases b
      cases hlabel
      cases hvalue
      exact .node hlength fun p hp => ih _ (List.of_mem_zip hp).1 (hall p hp)

instance (a b : Tree) : Decidable (Alike a b) := decidable_of_iff _ alike_iff.symm

theorem Alike.children {a b : Tree} (hab : Alike a b) :
    List.Forall₂ Alike a.children b.children := by
  cases hab with
  | node hlength hall => exact List.forall₂_iff_zip.mpr ⟨hlength, fun hp => hall _ hp⟩

/-- **The nodes of alike trees are alike position by position.** -/
theorem Alike.preorder {a b : Tree} (hab : Alike a b) :
    List.Forall₂ Alike a.preorder b.preorder := by
  induction hab with
  | node hlength hall ih =>
    rw [preorder_eq, preorder_eq (mk ..)]
    exact .cons (.node hlength hall)
      (Sequence.forall₂_flatMap (List.forall₂_iff_zip.mpr ⟨hlength, fun hp => ih _ hp⟩))

/-- The summaries of alike trees agree. -/
theorem Alike.summary_eq {a b : Tree} (hab : Alike a b) (ha : Sound h a) (hb : Sound h b) :
    a.digest = b.digest ∧ a.size = b.size ∧ a.height = b.height := by
  induction hab with
  | node hlength hall ih =>
    have hchildren := fun p hp => ih p hp (ha.of_mem_children (List.of_mem_zip hp).1)
      (hb.of_mem_children (List.of_mem_zip hp).2)
    cases ha
    cases hb
    have hdigests := (map_eq_map_iff_zip digest digest).mpr
      ⟨hlength, fun p hp => (hchildren p hp).1⟩
    have hsizes := (map_eq_map_iff_zip size size).mpr ⟨hlength, fun p hp => (hchildren p hp).2.1⟩
    have hheights := (map_eq_map_iff_zip height height).mpr
      ⟨hlength, fun p hp => (hchildren p hp).2.2⟩
    simp only [digest, size, height] at hdigests hsizes hheights ⊢
    rw [hdigests, hsizes, hheights]
    exact ⟨rfl, rfl, rfl⟩

end Tree

end Lineage
