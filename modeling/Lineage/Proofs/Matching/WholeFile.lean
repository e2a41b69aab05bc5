import Lineage.Proofs.Matching.Chosen
import Lineage.Proofs.Tree.Unique

/-!
# What the comparison of whole files finds

The last tier ranks the elements of the target's kind by how many counterparts of the target's nodes
they hold, and of those that hold equally many the first comes first
(`Lookup.mem_byCounterparts_iff`). A target that has moved without an edit is mapped onto the tree
that it came from (`Lookup.Moved.mapsOnto`), so no element holds more counterparts than the one it
came from, and those that hold as many are the ones around it. They stand before it and may take its
place: it is found exactly if few enough of them are of its kind (`Lookup.moved_found_iff`).
-/

namespace Lineage

namespace Sequence
variable {β : Type} {le : β → β → Bool} {l : List β} {x : β}

/-- The first occurrence of an element is among the first `n` exactly if fewer stand before it. -/
theorem mem_take_append_cons {before after : List β} (hnot : x ∉ before) {n : Nat} :
    x ∈ (before ++ x :: after).take n ↔ before.length < n := by
  constructor
  · intro hmem
    by_contra hfew
    rw [List.take_append_of_le_length (Nat.le_of_not_lt hfew)] at hmem
    exact hnot (List.mem_of_mem_take hmem)
  · intro hfew
    obtain ⟨k, rfl⟩ := Nat.exists_eq_add_of_lt hfew
    rw [List.take_append, List.mem_append, Nat.add_assoc, Nat.add_sub_cancel_left,
      List.take_succ_cons]
    exact .inr List.mem_cons_self

/-- What stands among the first of a sorted list is preceded by few. -/
theorem mem_take_mergeSort_iff (htrans : ∀ a b c, le a b = true → le b c = true → le a c = true)
    (htotal : ∀ a b, (le a b || le b a) = true) (hx : x ∈ l)
    (htie : ∀ y ∈ l, le x y = true → le y x = true → y = x) {n : Nat} :
    x ∈ (l.mergeSort le).take n ↔ l.countP (fun y => !le x y) < n := by
  have hperm := List.mergeSort_perm l le
  obtain ⟨before, after, hsorted, hnot⟩ := List.eq_append_cons_of_mem (hperm.mem_iff.mpr hx)
  have hpairs := List.pairwise_mergeSort htrans htotal l
  rw [hsorted, List.pairwise_append] at hpairs
  obtain ⟨-, hafter, hbefore⟩ := hpairs
  have hself : le x x = true := by simpa using htotal x x
  -- those before it come first strictly, the others do not
  have hfirst : ∀ y ∈ before, (!le x y) = true := by
    intro y hy
    rw [Bool.not_eq_true', Bool.eq_false_iff]
    intro hxy
    have hmem : y ∈ l := hperm.subset (hsorted ▸ List.mem_append_left _ hy)
    obtain rfl := htie y hmem hxy (hbefore y hy x List.mem_cons_self)
    exact hnot hy
  have hrest : ∀ y ∈ x :: after, ¬ (!le x y) = true := by
    intro y hy
    rw [Bool.not_eq_true', Bool.not_eq_false]
    rcases List.mem_cons.mp hy with rfl | hy
    · exact hself
    · exact (List.pairwise_cons.mp hafter).1 y hy
  have hcount : l.countP (fun y => !le x y) = before.length := by
    rw [← hperm.countP_eq, hsorted, List.countP_append, List.countP_eq_length.mpr hfirst,
      List.countP_eq_zero.mpr hrest, Nat.add_zero]
  rw [hcount, hsorted, mem_take_append_cons hnot]

variable {as bs : List Nat}

theorem filter_mem_subperm (ha : as.Nodup) : (as.filter (· ∈ bs)).Subperm bs :=
  (ha.filter _).subperm fun _ hi => of_decide_eq_true (List.mem_filter.mp hi).2

/-- A list without doubles holds at most all of another one. -/
theorem countP_mem_le (ha : as.Nodup) : as.countP (· ∈ bs) ≤ bs.length := by
  rw [List.countP_eq_length_filter]
  exact (filter_mem_subperm ha).length_le

theorem countP_mem_eq_iff (ha : as.Nodup) (hb : bs.Nodup) :
    as.countP (· ∈ bs) = bs.length ↔ bs ⊆ as := by
  constructor
  · intro hlength
    rw [List.countP_eq_length_filter] at hlength
    have hperm := (filter_mem_subperm ha).perm_of_length_le hlength.ge
    exact fun i hi => (List.mem_filter.mp (hperm.symm.subset hi)).1
  · intro hall
    refine Nat.le_antisymm (countP_mem_le ha) ?_
    have hfilter : bs ⊆ as.filter (· ∈ bs) := fun i hi =>
      List.mem_filter.mpr ⟨hall hi, decide_eq_true hi⟩
    rw [List.countP_eq_length_filter]
    exact (hb.subperm hfilter).length_le

end Sequence

namespace Lookup
variable {q : Lookup} {mapping : NodeMapping} {c e : Element}

/-! ### Counterparts that an element holds -/

/-- Identities that are collected one node after the other. -/
theorem contains_foldl (mapping : NodeMapping)
    {step : Std.TreeMap Nat Unit → Tree → Std.TreeMap Nat Unit}
    (hstep : ∀ ids n i, (step ids n).contains i = true ↔
      ids.contains i = true ∨ ∃ d, mapping.mapped? n = some d ∧ d.id = i)
    (nodes : List Tree) (ids : Std.TreeMap Nat Unit) (i : Nat) :
    (nodes.foldl step ids).contains i = true ↔
      ids.contains i = true ∨ ∃ n ∈ nodes, ∃ d, mapping.mapped? n = some d ∧ d.id = i := by
  induction nodes generalizing ids with
  | nil => simp
  | cons n nodes ih => rw [List.foldl_cons, ih, hstep, List.exists_mem_cons_iff, or_assoc]

/-- The counterparts are collected from all nodes of the target. -/
theorem contains_counterparts {i : Nat} : (q.counterparts mapping).contains i = true ↔
    ∃ n ∈ q.target.tree.preorder, ∃ d, mapping.mapped? n = some d ∧ d.id = i := by
  rw [counterparts, contains_foldl mapping]
  · simp
  · intro ids n i
    cases mapping.mapped? n with
    | none => simp
    | some d => simp [Std.TreeMap.contains_insert, or_comm]

/-- How many counterparts of the target's nodes an element holds. -/
def held (q : Lookup) (mapping : NodeMapping) (e : Element) : Nat :=
  e.tree.preorder.countP fun n => (q.counterparts mapping).contains n.id

variable (q mapping) in
/-- The elements that hold counterparts, with their number. -/
def counted : List (Nat × Element) :=
  q.sameKind.filterMap fun e =>
    if q.held mapping e = 0 then none else some (q.held mapping e, e)

theorem mem_counted {p : Nat × Element} : p ∈ q.counted mapping ↔
    p.2 ∈ q.sameKind ∧ p.1 = q.held mapping p.2 ∧ p.1 ≠ 0 := by
  rw [counted, List.mem_filterMap]
  constructor
  · rintro ⟨e, he, hep⟩
    split at hep
    · cases hep
    · next hheld =>
      cases hep
      exact ⟨he, rfl, hheld⟩
  · rintro ⟨he, hcount, hheld⟩
    refine ⟨p.2, he, ?_⟩
    rw [← hcount, if_neg hheld]

/-- The order of the candidates: those that hold most counterparts, and of them the first. -/
def heldOrder (a b : Nat × Element) : Bool :=
  if a.1 = b.1 then a.2.index ≤ b.2.index else b.1 < a.1

theorem heldOrder_iff {a b : Nat × Element} :
    heldOrder a b = true ↔ b.1 < a.1 ∨ a.1 = b.1 ∧ a.2.index ≤ b.2.index := by
  unfold heldOrder
  split
  · simp only [decide_eq_true_eq]
    omega
  · simp only [decide_eq_true_eq]
    omega

theorem heldOrder_trans (a b c : Nat × Element) (hab : heldOrder a b = true)
    (hbc : heldOrder b c = true) : heldOrder a c = true := by
  rw [heldOrder_iff] at *
  omega

theorem heldOrder_total (a b : Nat × Element) : (heldOrder a b || heldOrder b a) = true := by
  rw [Bool.or_eq_true, heldOrder_iff, heldOrder_iff]
  omega

theorem mem_byCounterparts {limit : Nat} : c ∈ q.byCounterparts mapping limit ↔
    (q.held mapping c, c) ∈ ((q.counted mapping).mergeSort heldOrder).take limit := by
  constructor
  · intro hc
    obtain ⟨⟨count, e⟩, hp, rfl⟩ := List.mem_map.mp hc
    obtain ⟨-, hcount, -⟩ := mem_counted.mp (List.mem_mergeSort.mp (List.mem_of_mem_take hp))
    dsimp only at hcount ⊢
    rwa [← hcount]
  · exact fun hp => List.mem_map.mpr ⟨_, hp, rfl⟩

variable (q mapping) in
/-- One element precedes another among the candidates. -/
def Precedes (e c : Element) : Prop :=
  q.held mapping c < q.held mapping e ∨
    q.held mapping e = q.held mapping c ∧ e.index < c.index

instance : Decidable (q.Precedes mapping e c) := inferInstanceAs (Decidable (_ ∨ _))

/-- An element that holds counterparts is a candidate exactly if few others precede it. -/
theorem mem_byCounterparts_iff (hc : c ∈ q.sameKind) (hheld : q.held mapping c ≠ 0)
    (hindex : ∀ e ∈ q.sameKind, e.index = c.index → e = c) {limit : Nat} :
    c ∈ q.byCounterparts mapping limit ↔
      (q.sameKind.countP fun e => q.Precedes mapping e c) < limit := by
  have htie : ∀ p ∈ q.counted mapping, heldOrder (q.held mapping c, c) p = true →
      heldOrder p (q.held mapping c, c) = true → p = (q.held mapping c, c) := by
    rintro ⟨count, e⟩ hp hcp hpc
    rw [heldOrder_iff] at hcp hpc
    dsimp only at hcp hpc
    have hcount : count = q.held mapping c := by omega
    have hplace : e.index = c.index := by omega
    rw [hcount, hindex e (mem_counted.mp hp).1 hplace]
  have hcounted : (q.counted mapping).countP (fun p => !heldOrder (q.held mapping c, c) p)
      = q.sameKind.countP fun e => q.Precedes mapping e c := by
    rw [counted, List.countP_filterMap]
    refine List.countP_congr fun e _ => ?_
    rw [decide_eq_true_iff, Precedes]
    split
    · simp only [Option.map_none, Option.getD_none, Bool.false_eq_true, false_iff]
      omega
    · rw [Option.map_some, Option.getD_some, Bool.not_eq_true', ← Bool.not_eq_true, heldOrder_iff]
      dsimp only
      omega
  rw [mem_byCounterparts, Sequence.mem_take_mergeSort_iff heldOrder_trans heldOrder_total
    (mem_counted.mpr ⟨hc, rfl, hheld⟩) htie, hcounted]

end Lookup

/-! ### A subtree that was moved -/

/-- Every node of the second element's tree stands in that of the first. -/
def Element.Encloses (e c : Element) : Prop :=
  ∀ i ∈ c.tree.preorder.map Tree.id, i ∈ e.tree.preorder.map Tree.id

instance (e c : Element) : Decidable (e.Encloses c) :=
  inferInstanceAs (Decidable (∀ i ∈ c.tree.preorder.map Tree.id, i ∈ e.tree.preorder.map Tree.id))

namespace Lookup
variable {q : Lookup} {mapping : NodeMapping} {c e : Element} {h : ByteArray → String}

/-- The counterparts of the target's nodes are the nodes of one element's tree. -/
def MapsOnto (q : Lookup) (mapping : NodeMapping) (c : Element) : Prop :=
  ∀ i, (q.counterparts mapping).contains i = true ↔ i ∈ c.tree.preorder.map Tree.id

namespace MapsOnto

theorem held_eq (honto : q.MapsOnto mapping c) (e : Element) : q.held mapping e
    = (e.tree.preorder.map Tree.id).countP (· ∈ c.tree.preorder.map Tree.id) := by
  rw [held, List.countP_map]
  refine List.countP_congr fun n _ => ?_
  rw [honto, Function.comp_apply, decide_eq_true_iff]

theorem held_self (honto : q.MapsOnto mapping c) (hc : c.tree.Distinct) :
    q.held mapping c = (c.tree.preorder.map Tree.id).length := by
  rw [honto.held_eq, Sequence.countP_mem_eq_iff hc hc]
  exact List.Subset.refl _

theorem held_ne_zero (honto : q.MapsOnto mapping c) (hc : c.tree.Distinct) :
    q.held mapping c ≠ 0 := by
  rw [honto.held_self hc, Tree.preorder_eq, List.map_cons, List.length_cons]
  exact Nat.succ_ne_zero _

/-- What encloses the element holds as many counterparts, and nothing holds more. -/
theorem precedes_iff (honto : q.MapsOnto mapping c) (hc : c.tree.Distinct)
    (he : e.tree.Distinct) : q.Precedes mapping e c ↔ e.index < c.index ∧ e.Encloses c := by
  have hle : q.held mapping e ≤ q.held mapping c := by
    rw [honto.held_self hc, honto.held_eq]
    exact Sequence.countP_mem_le he
  have heq : q.held mapping e = q.held mapping c ↔ e.Encloses c := by
    rw [honto.held_self hc, honto.held_eq]
    exact Sequence.countP_mem_eq_iff he hc
  rw [Precedes, heq]
  constructor
  · rintro (hlt | ⟨hencloses, hindex⟩)
    · omega
    · exact ⟨hindex, hencloses⟩
  · exact fun ⟨hindex, hencloses⟩ => .inr ⟨hencloses, hindex⟩

/-- The element is a candidate exactly if few elements that come before it enclose it. -/
theorem mem_byCounterparts_iff (honto : q.MapsOnto mapping c) (hc : c ∈ q.sameKind)
    (hdistinct : ∀ e ∈ q.earlier.elements, e.tree.Distinct)
    (hplace : ∀ e ∈ q.earlier.elements, q.earlier.elements[e.index]? = some e) {limit : Nat} :
    c ∈ q.byCounterparts mapping limit ↔
      (q.sameKind.countP fun e => e.index < c.index ∧ e.Encloses c) < limit := by
  have helement : ∀ e ∈ q.sameKind, e ∈ q.earlier.elements := fun e he =>
    Array.mem_toList_iff.mp (mem_sameKind he).1
  have hindex : ∀ e ∈ q.sameKind, e.index = c.index → e = c := by
    intro e he heq
    have hat := hplace e (helement e he)
    rw [heq, hplace c (helement c hc)] at hat
    exact (Option.some.inj hat).symm
  have hcd := hdistinct c (helement c hc)
  rw [Lookup.mem_byCounterparts_iff hc (honto.held_ne_zero hcd) hindex]
  refine iff_of_eq (congrArg (· < limit) (List.countP_congr fun e he => ?_))
  rw [decide_eq_true_iff, decide_eq_true_iff,
    honto.precedes_iff hcd (hdistinct e (helement e he))]

end MapsOnto

/-- The target's tree occurs once in each file, in the earlier one as the tree of an element that
may be compared with the target. -/
structure Moved (q : Lookup) (c : Element) : Prop where
  target : q.target.tree ∈ q.later.tree.preorder
  once : (q.later.tree.preorder.map Tree.digest).count q.target.tree.digest = 1
  onceBefore : (q.earlier.tree.preorder.map Tree.digest).count q.target.tree.digest = 1
  sameKind : c ∈ q.sameKind
  tree : c.tree ∈ q.earlier.tree.preorder
  digest : c.tree.digest = q.target.tree.digest

variable {α : Type} [Score α] {s : Matcher α}

/-- A high target that has moved is mapped onto its like. -/
theorem Moved.mapsOnto (hmoved : q.Moved c) (hlater : q.later.tree.Sound h)
    (hearlier : q.earlier.tree.Sound h) (hld : q.later.tree.Distinct)
    (hed : q.earlier.tree.Distinct) (htell : q.later.tree.DigestsTell q.earlier.tree)
    (htall : s.minAnchorHeight ≤ q.target.tree.height) :
    q.MapsOnto (s.run q.later.tree q.earlier.tree) c := by
  have hmapped := s.mapped?_run_of_unique hlater hearlier hld hed htell hmoved.target htall
    hmoved.tree hmoved.digest hmoved.once hmoved.onceBefore
  have halike := htell _ hmoved.target _ hmoved.tree hmoved.digest.symm
  have hlength := halike.preorder.length_eq
  intro i
  rw [contains_counterparts, List.mem_map]
  constructor
  · rintro ⟨n, hn, d, hd, rfl⟩
    obtain ⟨e, hne⟩ := exists_mem_zip_of_mem hlength hn
    obtain rfl := Option.some.inj (hd.symm.trans (hmapped n e hne))
    exact ⟨d, (List.of_mem_zip hne).2, rfl⟩
  · rintro ⟨d, hd, rfl⟩
    obtain ⟨n, hnd⟩ := exists_mem_zip_of_mem_right hlength hd
    exact ⟨n, (List.of_mem_zip hnd).1, d, hmapped n d hnd, rfl⟩

theorem mem_wholeFile (hc : c ∈ q.sameKind) {limit : Nat} :
    c ∈ (q.inTier (some s) limit .wholeFile).elements ↔
      c ∈ q.byCounterparts (s.run q.later.tree q.earlier.tree) limit := by
  have hsome : q.sameKind.isEmpty = false := by
    rw [List.isEmpty_eq_false_iff]
    exact List.ne_nil_of_mem hc
  rw [inTier]
  dsimp only
  rw [hsome]
  rfl

/-- **A moved element is found unless those around it take its place.** It is among the first
`limit` candidates exactly if fewer than `limit` elements of its kind that come before it enclose
it. -/
theorem moved_found_iff (hmoved : q.Moved c) (hlater : q.later.tree.Sound h)
    (hearlier : q.earlier.tree.Sound h) (hld : q.later.tree.Distinct)
    (hed : q.earlier.tree.Distinct) (htell : q.later.tree.DigestsTell q.earlier.tree)
    (hdistinct : ∀ e ∈ q.earlier.elements, e.tree.Distinct)
    (hplace : ∀ e ∈ q.earlier.elements, q.earlier.elements[e.index]? = some e)
    (htall : s.minAnchorHeight ≤ q.target.tree.height) (limit : Nat) :
    c ∈ (q.inTier (some s) limit .wholeFile).elements ↔
      (q.sameKind.countP fun e => e.index < c.index ∧ e.Encloses c) < limit := by
  have honto : q.MapsOnto (s.run q.later.tree q.earlier.tree) c :=
    hmoved.mapsOnto hlater hearlier hld hed htell htall
  rw [mem_wholeFile hmoved.sameKind]
  exact honto.mem_byCounterparts_iff hmoved.sameKind hdistinct hplace

/-! ### A method that moves out of another one -/

/-- A method that returns a name, with the nodes `id`, `id + 1` and `id + 2`. -/
def returning (id : Nat) (line : Int) : Tree :=
  .node id "FunctionDef" "" ⟨line, line + 1⟩
    [.node (id + 1) "Return" "" ⟨line + 1, line + 1⟩
      [.node (id + 2) "Name" "x" ⟨line + 1, line + 1⟩ []]]

/-- A method that holds nothing but another one. -/
def wrapping (inner : Tree) : Tree := .node 1 "FunctionDef" "" ⟨1, 3⟩ [inner]

/-- A method with the given tree. -/
def methodOver (index : Nat) (name : String) (container : Option Nat) (tree : Tree) : Element where
  index := index
  kind := .methodDecl
  name := name
  qualifiedName := name
  container := container
  signature := {}
  lines := tree.lines
  bodyTokens := []
  tree := tree
  blockType := none

/-- A method that stands in another one. -/
def movedOutOf : Element := methodOver 1 "d" (some 0) (returning 2 2)

/-- In the later file it stands alone and has another name. -/
def movedOut : Lookup where
  target := methodOver 0 "e" none (returning 1 5)
  later :=
    { path := "x.py"
      elements := #[methodOver 0 "e" none (returning 1 5)]
      tree := .node 0 "Module" "" ⟨1, 1⟩ [returning 1 5] }
  earlier :=
    { path := "x.py"
      elements := #[methodOver 0 "a" none (wrapping (returning 2 2)), movedOutOf]
      tree := .node 0 "Module" "" ⟨1, 1⟩ [wrapping (returning 2 2)] }

theorem sound_movedOut :
    movedOut.later.tree.Sound Tree.hash ∧ movedOut.earlier.tree.Sound Tree.hash := by
  have hreturning : ∀ id line, (returning id line).Sound Tree.hash := fun id line =>
    Tree.sound_node (List.forall_mem_singleton.mpr
      (Tree.sound_node (List.forall_mem_singleton.mpr (Tree.sound_node nofun))))
  exact ⟨Tree.sound_node (List.forall_mem_singleton.mpr (hreturning 1 5)),
    Tree.sound_node (List.forall_mem_singleton.mpr
      (Tree.sound_node (List.forall_mem_singleton.mpr (hreturning 2 2))))⟩

theorem moved_movedOut : movedOut.Moved movedOutOf where
  target := List.mem_cons_of_mem _ List.mem_cons_self
  once := by decide +kernel
  onceBefore := by decide +kernel
  sameKind := List.mem_filter.mpr ⟨List.mem_cons_of_mem _ List.mem_cons_self, by decide⟩
  tree := List.mem_cons_of_mem _ (List.mem_cons_of_mem _ List.mem_cons_self)
  digest := by decide +kernel

theorem tell_movedOut : movedOut.later.tree.DigestsTell movedOut.earlier.tree := by
  decide +kernel

theorem elements_movedOut : ∀ e ∈ movedOut.earlier.elements, e.tree.Distinct ∧
    movedOut.earlier.elements[e.index]? = some e ∧
    (e.tree.id = movedOutOf.tree.id → e = movedOutOf) := by
  intro e he
  have hcases : e = methodOver 0 "a" none (wrapping (returning 2 2)) ∨ e = movedOutOf := by
    simpa [movedOut] using he
  rcases hcases with rfl | rfl
  · exact ⟨by decide, rfl, nofun⟩
  · exact ⟨by decide, rfl, fun _ => rfl⟩

theorem moved_found_iff_movedOut : movedOut.Moved movedOutOf ∧
    movedOut.later.tree.Sound Tree.hash ∧ movedOut.earlier.tree.Sound Tree.hash ∧
    movedOut.later.tree.Distinct ∧ movedOut.earlier.tree.Distinct ∧
    movedOut.later.tree.DigestsTell movedOut.earlier.tree ∧
    (∀ e ∈ movedOut.earlier.elements, e.tree.Distinct) ∧
    (∀ e ∈ movedOut.earlier.elements, movedOut.earlier.elements[e.index]? = some e) ∧
    (2 : Int) ≤ movedOut.target.tree.height ∧
    movedOutOf
      ∈ (movedOut.inTier (some (⟨2, 0.5⟩ : Matcher Float)) 2 .wholeFile).elements := by
  have hld : movedOut.later.tree.Distinct := by decide
  have hed : movedOut.earlier.tree.Distinct := by decide
  have htall : (⟨2, 0.5⟩ : Matcher Float).minAnchorHeight ≤ movedOut.target.tree.height := by
    decide
  have hdistinct := fun e he => (elements_movedOut e he).1
  have hplace := fun e he => (elements_movedOut e he).2.1
  refine ⟨moved_movedOut, sound_movedOut.1, sound_movedOut.2, hld, hed, tell_movedOut, hdistinct,
    hplace, htall, ?_⟩
  -- one method encloses it, so there is room for it among two
  have hfound := moved_found_iff moved_movedOut sound_movedOut.1 sound_movedOut.2 hld hed
    tell_movedOut hdistinct hplace htall 2
  exact hfound.mpr (by decide)

/-- A method moves out of another one without a change, and it is not among the candidates if only
one is kept: the method around it holds as many counterparts and comes first. -/
theorem not_moved_found : ∃ (q : Lookup) (c : Element) (s : Matcher Float) (limit : Nat),
    q.later.tree.Sound Tree.hash ∧ q.earlier.tree.Sound Tree.hash ∧
    q.later.tree.Distinct ∧ q.earlier.tree.Distinct ∧
    q.later.tree.DigestsTell q.earlier.tree ∧
    (∀ e ∈ q.earlier.elements, e.tree.Distinct ∧ q.earlier.elements[e.index]? = some e ∧
      (e.tree.id = c.tree.id → e = c)) ∧
    q.target ∈ q.later.elements ∧ q.target.tree ∈ q.later.tree.preorder ∧
    s.minAnchorHeight ≤ q.target.tree.height ∧
    (q.later.tree.preorder.map Tree.digest).count q.target.tree.digest = 1 ∧
    (q.earlier.tree.preorder.map Tree.digest).count q.target.tree.digest = 1 ∧
    c ∈ q.earlier.elements ∧ c.tree ∈ q.earlier.tree.preorder ∧
    c.tree.digest = q.target.tree.digest ∧ c.kind = q.target.kind ∧
    c.blockType = q.target.blockType ∧ 1 ≤ limit ∧
    c ∉ (q.inTier (some s) limit .wholeFile).elements := by
  have hld : movedOut.later.tree.Distinct := by decide
  have hed : movedOut.earlier.tree.Distinct := by decide
  have htall : (⟨2, 0.5⟩ : Matcher Float).minAnchorHeight ≤ movedOut.target.tree.height := by
    decide
  have hmoved := moved_movedOut
  refine ⟨movedOut, movedOutOf, ⟨2, 0.5⟩, 1, sound_movedOut.1, sound_movedOut.2, hld, hed,
    tell_movedOut, elements_movedOut, List.mem_toArray.mpr List.mem_cons_self, hmoved.target, htall,
    hmoved.once, hmoved.onceBefore, Array.mem_toList_iff.mp (mem_sameKind hmoved.sameKind).1,
    hmoved.tree, hmoved.digest, rfl, rfl, le_rfl, ?_⟩
  have honto := hmoved.mapsOnto sound_movedOut.1 sound_movedOut.2 hld hed tell_movedOut htall
  rw [mem_wholeFile hmoved.sameKind, honto.mem_byCounterparts_iff hmoved.sameKind
    (fun e he => (elements_movedOut e he).1) (fun e he => (elements_movedOut e he).2.1)]
  decide

end Lookup

end Lineage
