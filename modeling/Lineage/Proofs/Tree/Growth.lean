import Lineage.Tree.Outline
import Lineage.Proofs.Tree.Digest

/-!
# Outlines grow into trees of their shape

A node is made when its children are finished, and an operator is looked up when its parent is made.
The nursery keeps a node for every operator that it has ever renewed, so no child is lost: an
outline always grows into a tree, which is sound and has the labels and values of the outline.
-/

namespace Lineage

namespace Outline

mutual

/-- The labels and values of an outline. -/
def shape : Outline → Shape
  | node label value _ children => .node label value (shapes children)
  | interned label => .node label "" []

/-- The shapes of outlines. -/
def shapes : List Outline → List Shape
  | [] => []
  | o :: os => o.shape :: shapes os

end

@[simp] theorem shapes_eq_map (os : List Outline) : shapes os = os.map shape := by
  induction os with
  | nil => rfl
  | cons o os ih => rw [shapes, ih, List.map_cons]

namespace Nursery

/-- The node kept for an operator is sound and carries its label. -/
def Tended (n : Nursery) : Prop :=
  ∀ p ∈ n.operators, Tree.Sound Tree.hash p.2 ∧ p.2.shape = .node p.1 "" []

/-- Every operator that has a node in one nursery has one in another. -/
def Extends (n m : Nursery) : Prop :=
  ∀ label, (n.operator? label).isSome → (m.operator? label).isSome

theorem extends_refl (n : Nursery) : n.Extends n := fun _ h => h

theorem Extends.trans {n m k : Nursery} (h : n.Extends m) (h' : m.Extends k) : n.Extends k :=
  fun label hl => h' label (h label hl)

theorem operator?_isSome {n : Nursery} {label : String} :
    (n.operator? label).isSome ↔ ∃ p ∈ n.operators, p.1 = label := by
  rw [operator?, List.lookup_isSome_iff]
  simp only [beq_iff_eq, eq_comm (a := label)]

theorem Tended.of_operator? {n : Nursery} (h : n.Tended) {label : String} {t : Tree}
    (ht : n.operator? label = some t) :
    Tree.Sound Tree.hash t ∧ t.shape = .node label "" [] := by
  obtain ⟨before, after, heq, -⟩ := List.lookup_eq_some_iff.mp ht
  exact h (label, t) (heq ▸ List.mem_append_right _ List.mem_cons_self)

theorem tended_empty : empty.Tended := fun _ h => nomatch h

theorem tended_renew {n : Nursery} (h : n.Tended) (label : String) (line : Int) :
    (n.renew label line).Tended := by
  intro p hp
  rcases List.mem_cons.mp hp with rfl | hp
  · exact ⟨Tree.sound_node (fun _ hc => nomatch hc), rfl⟩
  · exact h p (List.mem_filter.mp hp).1

theorem extends_renew (n : Nursery) (label : String) (line : Int) :
    n.Extends (n.renew label line) := by
  intro label' h
  obtain ⟨p, hp, rfl⟩ := operator?_isSome.mp h
  refine operator?_isSome.mpr ?_
  by_cases heq : p.1 = label
  · exact ⟨_, List.mem_cons_self, heq.symm⟩
  · exact ⟨p, List.mem_cons_of_mem _ (List.mem_filter.mpr ⟨hp, by simpa using heq⟩), rfl⟩

theorem renewed_isSome (n : Nursery) (label : String) (line : Int) :
    ((n.renew label line).operator? label).isSome :=
  operator?_isSome.mpr ⟨_, List.mem_cons_self, rfl⟩

end Nursery

/-- The child of a node under construction stands for an outline. -/
def Shoot.Fits (n : Nursery) (o : Outline) : Shoot → Prop
  | tree t => Tree.Sound Tree.hash t ∧ t.shape = o.shape
  | operator label => o = .interned label ∧ (n.operator? label).isSome

theorem Shoot.Fits.mono {n m : Nursery} {o : Outline} {s : Shoot} (h : s.Fits n o)
    (hext : n.Extends m) : s.Fits m o := by
  cases s with
  | tree t => exact h
  | operator label => exact ⟨h.1, hext label h.2⟩

theorem Shoot.Fits.tree? {n : Nursery} {o : Outline} {s : Shoot} (h : s.Fits n o)
    (hn : n.Tended) :
    ∃ t, s.tree? n = some t ∧ Tree.Sound Tree.hash t ∧ t.shape = o.shape := by
  cases s with
  | tree t => exact ⟨t, rfl, h⟩
  | operator label =>
    -- the node may be a later one than that of this occurrence, but its label is the same
    obtain ⟨rfl, hsome⟩ := h
    obtain ⟨t, ht⟩ := Option.isSome_iff_exists.mp hsome
    exact ⟨t, ht, hn.of_operator? ht⟩

/-- Children that stand for outlines become sound trees of their shapes, none of them lost. -/
theorem trees_of_fits {n : Nursery} (hn : n.Tended) {os : List Outline} {ss : List Shoot}
    (h : List.Forall₂ (fun o s => Shoot.Fits n o s) os ss) :
    (∀ t ∈ ss.filterMap (·.tree? n), Tree.Sound Tree.hash t) ∧
      (ss.filterMap (·.tree? n)).map Tree.shape = os.map shape := by
  induction h with
  | nil => exact ⟨fun _ h => (nomatch h), rfl⟩
  | cons hfits _ ih =>
    obtain ⟨t, ht, hsound, hshape⟩ := hfits.tree? hn
    rw [List.filterMap_cons_some ht]
    refine ⟨fun u hu => ?_, ?_⟩
    · rcases List.mem_cons.mp hu with rfl | hu
      · exact hsound
      · exact ih.1 u hu
    · rw [List.map_cons, List.map_cons, hshape, ih.2]

mutual

theorem grow_fits (line : Int) (o : Outline) {n : Nursery} (hn : n.Tended) :
    (o.grow line n).2.Tended ∧ n.Extends (o.grow line n).2 ∧
      (o.grow line n).1.Fits (o.grow line n).2 o := by
  cases o with
  | node label value lines children =>
    obtain ⟨htended, hext, hfits⟩ := growAll_fits (lines.getD ⟨line, line⟩).first children hn
    obtain ⟨hsound, hshapes⟩ := trees_of_fits htended hfits
    refine ⟨htended, hext, Tree.sound_node hsound, ?_⟩
    rw [shape, Tree.node, Tree.shape, Tree.shapes_eq_map, shapes_eq_map, hshapes]
  | interned label =>
    exact ⟨Nursery.tended_renew hn label line, n.extends_renew label line, rfl,
      n.renewed_isSome label line⟩

theorem growAll_fits (line : Int) (os : List Outline) {n : Nursery} (hn : n.Tended) :
    (growAll line os n).2.Tended ∧ n.Extends (growAll line os n).2 ∧
      List.Forall₂ (fun o s => Shoot.Fits (growAll line os n).2 o s) os (growAll line os n).1 := by
  cases os with
  | nil => exact ⟨hn, n.extends_refl, .nil⟩
  | cons o os =>
    obtain ⟨htended, hext, hfits⟩ := grow_fits line o hn
    obtain ⟨htended', hext', hrest⟩ := growAll_fits line os htended
    exact ⟨htended', hext.trans hext', .cons (hfits.mono hext') hrest⟩

end

/-- Every outline grows into a sound tree of its shape. -/
theorem exists_tree? (line : Int) (o : Outline) :
    ∃ t, o.tree? line = some t ∧ Tree.Sound Tree.hash t ∧ t.shape = o.shape := by
  obtain ⟨htended, -, hfits⟩ := grow_fits line o Nursery.tended_empty
  exact hfits.tree? htended

end Outline

end Lineage
