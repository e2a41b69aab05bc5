import Lineage.Element.Locator
import Lineage.Proofs.Element.Formed
import Lineage.Proofs.Element.Naming
import Mathlib.Data.List.Pairwise

/-! # Elements that are found again

What a locator means is an element of the model of the kind that it names (`Locator.find?_mem`);
where several fit, it is one that covers the fewest lines (`Locator.innermost?_le`).

Conversely an element has a locator made of its own fields (`Locator.of?`).  Where elements of one
kind and name start on different lines and are nested or apart, the innermost of those around its
first line is the element itself, so it is found again by that locator
(`Locatable.element_found_again`).  For a variable or a block the method around it is found first,
in the same way.
-/
namespace Lineage

namespace Locator
variable {m : Model} {e : Element}

theorem foldl_inner_mem (es : List Element) (e : Element) : es.foldl inner e ∈ e :: es := by
  induction es generalizing e with
  | nil => exact List.mem_singleton_self e
  | cons e' es ih =>
    have hinner : inner e e' = e ∨ inner e e' = e' := by
      unfold inner
      split
      · exact .inr rfl
      · exact .inl rfl
    rcases List.mem_cons.mp (ih (inner e e')) with heq | hmem
    · rw [List.foldl_cons, heq]
      rcases hinner with h | h <;> rw [h] <;> simp
    · exact List.mem_cons_of_mem _ (List.mem_cons_of_mem _ hmem)

/-- The innermost of some elements is one of them. -/
theorem innermost?_mem {es : List Element} (h : innermost? es = some e) : e ∈ es := by
  cases es with
  | nil => cases h
  | cons e' es =>
    cases h
    exact foldl_inner_mem es e'

/-- The element that a locator means is an element of the model, of the kind that it names. -/
theorem find?_mem {l : Locator} (h : l.find? m = some e) :
    e ∈ m.elements.toList ∧ e.kind = l.kind := by
  have hfilter : ∀ {k : ElementKind} {p : Element → Bool} {es : List Element},
      e ∈ es.filter (fun e => e.kind == k && p e) → e ∈ es ∧ e.kind = k := by
    intro k p es hmem
    obtain ⟨hmem, htrue⟩ := List.mem_filter.mp hmem
    exact ⟨hmem, eq_of_beq (Bool.and_eq_true_iff.mp htrue).1⟩
  unfold find? at h
  split at h
  · have hmem := List.mem_of_find?_eq_some h
    have htrue := List.find?_some h
    exact ⟨hmem, eq_of_beq (Bool.and_eq_true_iff.mp htrue).1⟩
  · simp only [Bool.and_assoc] at h
    exact hfilter (innermost?_mem h)
  · simp only [methodOf?, Bool.and_assoc] at h
    exact hfilter (innermost?_mem h)
  · simp only [Bool.and_assoc] at h
    exact hfilter (innermost?_mem h)
  · simp only [Bool.and_assoc] at h
    split at h
    · exact hfilter (innermost?_mem h)
    · obtain ⟨owner, -, h⟩ := Option.bind_eq_some_iff.mp h
      exact hfilter (innermost?_mem h)
  · obtain ⟨owner, -, h⟩ := Option.bind_eq_some_iff.mp h
    obtain ⟨hmem, hkind⟩ := List.mem_filter.mp (List.mem_of_find?_eq_some h)
    exact ⟨hmem, eq_of_beq hkind⟩

/-! ### The innermost element -/

theorem inner_le (a b : Element) :
    (inner a b).lines.extent ≤ a.lines.extent ∧ (inner a b).lines.extent ≤ b.lines.extent := by
  unfold inner
  split <;> omega

theorem foldl_inner_le (es : List Element) (e : Element) :
    ∀ f ∈ e :: es, (es.foldl inner e).lines.extent ≤ f.lines.extent := by
  induction es generalizing e with
  | nil => exact List.forall_mem_singleton.mpr (Int.le_refl _)
  | cons e' es ih =>
    obtain ⟨hinner, hrest⟩ := List.forall_mem_cons.mp (ih (inner e e'))
    obtain ⟨hle, hle'⟩ := inner_le e e'
    rw [List.foldl_cons]
    refine List.forall_mem_cons.mpr ⟨Int.le_trans hinner hle, ?_⟩
    exact List.forall_mem_cons.mpr ⟨Int.le_trans hinner hle', hrest⟩

/-- The innermost of some elements covers no more lines than any of them. -/
theorem innermost?_le {es : List Element} (h : innermost? es = some e) :
    ∀ f ∈ es, e.lines.extent ≤ f.lines.extent := by
  cases es with
  | nil => cases h
  | cons e' es =>
    cases h
    exact foldl_inner_le es e'

/-- An element that covers fewer lines than all others is the innermost. -/
theorem innermost?_eq {es : List Element} (he : e ∈ es)
    (hleast : ∀ f ∈ es, f = e ∨ e.lines.extent < f.lines.extent) : innermost? es = some e := by
  cases hd : innermost? es with
  | none =>
    cases es with
    | nil => cases he
    | cons => cases hd
  | some d =>
    obtain rfl | hlt := hleast d (innermost?_mem hd)
    · rfl
    · exact absurd (innermost?_le hd e he) (Int.not_le.mpr hlt)

/-! ### Locators made of elements -/

/-- The locator that is made of the fields of an element.  A variable or a block is named with the
method around it; a block without a type has no locator. -/
def of? (m : Model) (e : Element) : Option Locator :=
  match e.kind with
  | .classDecl => some (.classNamed e.qualifiedName (some e.lines.first))
  | .methodDecl => some (.methodAt e.name e.lines.first)
  | .attributeDecl => some (.attributeAt e.name e.lines.first)
  | .variableDecl =>
    some (.variableAt ((m.enclosingMethod? e).map fun o => (o.name, o.lines.first)) e.name
      e.lines.first)
  | .blockStmt =>
    (m.enclosingMethod? e).bind fun o => e.blockType.map fun type =>
      .blockAt o.name o.lines.first type e.lines.first e.lines.last

end Locator

/-- Two elements of one kind and name start on different lines, and one covers the other or they
have no line in common.  Variables are told apart in another way. -/
def Element.Apart (a b : Element) : Prop :=
  a.kind = b.kind → a.name = b.name → a.kind ≠ .variableDecl →
    a.lines.first ≠ b.lines.first ∧
      (a.lines.overlapsWholly b.lines = true ∨ a.lines.last < b.lines.first ∨
        b.lines.last < a.lines.first)

instance : Std.Symm Element.Apart where
  symm a b h hkind hname hvariable := by
    obtain ⟨hfirst, hlines⟩ := h hkind.symm hname.symm (hkind ▸ hvariable)
    refine ⟨hfirst.symm, ?_⟩
    rwa [LineRange.overlapsWholly, Bool.or_comm, Or.comm (a := _ < _)]

namespace Model

/-- No two elements of the file are mistaken for each other. -/
structure Locatable (m : Model) : Prop where
  index : ∀ (i : Nat) (e : Element), m.elements[i]? = some e → e.index = i
  lines : ∀ e ∈ m.elements, 1 ≤ e.lines.first ∧ e.lines.first ≤ e.lines.last
  apart : m.elements.toList.Pairwise Element.Apart
  variablesOnce : (keysOf .variableDecl m.elements).Nodup
  named : ∀ e ∈ m.elements, e.EndsInName
  simple : ∀ e ∈ m.elements, '.' ∉ e.name.toList ∧ '/' ∉ e.name.toList
  blockInMethod : ∀ e ∈ m.elements, e.kind = .blockStmt →
    ∃ o, m.containerOf? e = some o ∧ o.kind = .methodDecl
  variableInMethod : ∀ e ∈ m.elements, e.kind = .variableDecl →
    e.container = none ∨ ∃ o, m.containerOf? e = some o ∧ o.kind = .methodDecl
  blocksOnce : ((m.ofKind .blockStmt).map fun b => (b.container, b.blockType, b.lines)).Nodup

namespace Locatable
variable {m : Model} {e f o : Element}

/-- An element of the same kind and name around the first line covers more lines. -/
theorem extent_lt (h : m.Locatable) (he : e ∈ m.elements) (hf : f ∈ m.elements)
    (hkind : f.kind = e.kind) (hname : f.name = e.name) (hvariable : e.kind ≠ .variableDecl)
    (hholds : f.lines.holds e.lines.first = true) :
    f = e ∨ e.lines.extent < f.lines.extent := by
  refine or_iff_not_imp_left.mpr fun hne => ?_
  obtain ⟨hfirst, hlines⟩ := h.apart.forall (Array.mem_toList_iff.mpr hf)
    (Array.mem_toList_iff.mpr he) hne hkind hname (hkind ▸ hvariable)
  simp only [LineRange.overlapsWholly, LineRange.contains, LineRange.holds, LineRange.extent,
    Bool.or_eq_true, Bool.and_eq_true, decide_eq_true_eq] at hlines hholds ⊢
  have hle := (h.lines e he).2
  omega

/-- Of the elements that fit, all of which share kind and name and hold the first line, the element
is the innermost. -/
theorem innermost?_filter (h : m.Locatable) {fits : Element → Bool} (he : e ∈ m.elements)
    (hfits : fits e = true) (hvariable : e.kind ≠ .variableDecl)
    (hall : ∀ f ∈ m.elements, fits f = true →
      f.kind = e.kind ∧ f.name = e.name ∧ f.lines.holds e.lines.first = true) :
    Locator.innermost? (m.elements.toList.filter fits) = some e := by
  refine Locator.innermost?_eq (List.mem_filter.mpr ⟨Array.mem_toList_iff.mpr he, hfits⟩) ?_
  intro f hf
  obtain ⟨hmem, hfits⟩ := List.mem_filter.mp hf
  have hmem := Array.mem_toList_iff.mp hmem
  obtain ⟨hkind, hname, hholds⟩ := hall f hmem hfits
  exact h.extent_lt he hmem hkind hname hvariable hholds

theorem holds_first (h : m.Locatable) (he : e ∈ m.elements) :
    e.lines.holds e.lines.first = true :=
  Bool.and_eq_true_iff.mpr ⟨decide_eq_true (Int.le_refl _), decide_eq_true (h.lines e he).2⟩

/-- An element that is no variable is found by its kind, name and first line. -/
theorem innermost?_ofKind (h : m.Locatable) (he : e ∈ m.elements) {kind : ElementKind}
    (hkind : e.kind = kind) (hvariable : kind ≠ .variableDecl) :
    Locator.innermost? (m.elements.toList.filter fun f =>
      f.kind == kind && f.name == e.name && f.lines.holds e.lines.first) = some e := by
  refine h.innermost?_filter he ?_ (hkind ▸ hvariable) fun f _ hfits => ?_
  · rw [hkind, h.holds_first he]
    simp
  · simp only [Bool.and_eq_true, beq_iff_eq] at hfits
    exact ⟨hfits.1.1.trans hkind.symm, hfits.1.2, hfits.2⟩

/-- A method is found by its name and first line. -/
theorem methodOf?_self (h : m.Locatable) (he : e ∈ m.elements) (hkind : e.kind = .methodDecl) :
    Locator.methodOf? m e.name e.lines.first = some e :=
  h.innermost?_ofKind he hkind (by decide)

/-- An attribute is found by its name and first line. -/
theorem attributeAt_self (h : m.Locatable) (he : e ∈ m.elements) (hkind : e.kind = .attributeDecl) :
    (Locator.attributeAt e.name e.lines.first).find? m = some e :=
  h.innermost?_ofKind he hkind (by decide)

/-- A class that is called by the qualified name of another has its simple name. -/
theorem name_eq_of_called (h : m.Locatable) (he : e ∈ m.elements) (hf : f ∈ m.elements)
    (hkind : e.kind = .classDecl) (hkind' : f.kind = .classDecl)
    (hcalled : e.qualifiedName = f.name ∨ e.qualifiedName = f.qualifiedName) :
    f.name = e.name := by
  have hdot : ∀ {a : Element}, a ∈ m.elements → a.kind = .classDecl →
      a.separator ∉ a.name.toList := by
    intro a ha hclass
    rw [Element.separator, hclass]
    exact (h.simple a ha).1
  have htail := (h.named e he).takeWhile (hdot he hkind)
  refine String.toList_inj.mp (List.reverse_inj.mp ?_)
  rw [← htail]
  obtain hcalled | hcalled := hcalled
  · -- the simple name holds no dot, so the qualified name is the simple one of both
    rw [hcalled]
    symm
    refine List.takeWhile_eq_self_iff.mpr fun a ha => decide_eq_true fun heq => ?_
    refine hdot hf hkind' ?_
    rw [Element.separator_eq (hkind'.trans hkind.symm), ← heq]
    exact List.mem_reverse.mp ha
  · rw [hcalled, Element.separator_eq (hkind.trans hkind'.symm)]
    exact ((h.named f hf).takeWhile (hdot hf hkind')).symm

/-- A class is found by its qualified name and first line. -/
theorem classNamed_self (h : m.Locatable) (he : e ∈ m.elements) (hkind : e.kind = .classDecl) :
    (Locator.classNamed e.qualifiedName (some e.lines.first)).find? m = some e := by
  refine h.innermost?_filter he ?_ (by rw [hkind]; decide) fun f hf hfits => ?_
  · rw [hkind, h.holds_first he]
    simp
  · simp only [Bool.and_eq_true, Bool.or_eq_true, beq_iff_eq] at hfits
    obtain ⟨⟨hclass, hcalled⟩, hholds⟩ := hfits
    exact ⟨hclass.trans hkind.symm, h.name_eq_of_called he hf hkind hclass hcalled, hholds⟩

/-- The container at the place that an element names. -/
theorem container_eq (h : m.Locatable) (ho : m.containerOf? e = some o) :
    o ∈ m.elements ∧ e.container = some o.index := by
  obtain ⟨i, hi, hfound⟩ := Option.bind_eq_some_iff.mp ho
  exact ⟨Array.mem_of_getElem? hfound, by rw [h.index i o hfound, hi]⟩

/-- The method around what stands in a method. -/
theorem enclosingMethod?_eq (ho : m.containerOf? e = some o) (hkind : o.kind = .methodDecl) :
    m.enclosingMethod? e = some o := by
  rw [enclosingMethod?, ho, methodFrom?, if_pos (beq_iff_eq.mpr hkind)]

/-- A variable is the only one of its name in its container. -/
theorem innermost?_variable (h : m.Locatable) (he : e ∈ m.elements)
    (hkind : e.kind = .variableDecl) :
    Locator.innermost? (m.elements.toList.filter fun f =>
      f.kind == .variableDecl && f.name == e.name && f.container == e.container
        && f.lines.holds e.lines.first) = some e := by
  have hvariable : ∀ {f : Element}, f ∈ m.elements → f.kind = .variableDecl →
      f ∈ m.elements.toList.filter (·.kind = .variableDecl) := fun hf hkind =>
    List.mem_filter.mpr ⟨Array.mem_toList_iff.mpr hf, decide_eq_true hkind⟩
  refine Locator.innermost?_eq (List.mem_filter.mpr ⟨Array.mem_toList_iff.mpr he, ?_⟩) ?_
  · rw [hkind, h.holds_first he]
    simp
  · intro f hf
    obtain ⟨hmem, hfits⟩ := List.mem_filter.mp hf
    simp only [Bool.and_eq_true, beq_iff_eq] at hfits
    obtain ⟨⟨⟨hkind', hname⟩, hcontainer⟩, -⟩ := hfits
    exact .inl (List.inj_on_of_nodup_map h.variablesOnce
      (hvariable (Array.mem_toList_iff.mp hmem) hkind') (hvariable he hkind)
      (Prod.ext hcontainer hname))

/-- A block is the only one of its type and lines in its method. -/
theorem find?_block (h : m.Locatable) (he : e ∈ m.elements) (hkind : e.kind = .blockStmt)
    (ho : m.containerOf? e = some o) (hmethod : o.kind = .methodDecl) {type : String}
    (htype : e.blockType = some type) :
    ((m.ofKind .blockStmt).find? fun f =>
      f.blockType == some type && f.lines == ⟨e.lines.first, e.lines.last⟩
        && (m.enclosingMethod? f).map (·.index) == some o.index) = some e := by
  have hblock : ∀ {f : Element}, f ∈ m.elements → f.kind = .blockStmt → f ∈ m.ofKind .blockStmt :=
    fun hf hkind => List.mem_filter.mpr ⟨Array.mem_toList_iff.mpr hf, beq_iff_eq.mpr hkind⟩
  -- whatever is found has the type, the lines and the method of the block, so it is the block
  have hfits : (e.blockType == some type && e.lines == ⟨e.lines.first, e.lines.last⟩
      && (m.enclosingMethod? e).map (·.index) == some o.index) = true := by
    rw [htype, enclosingMethod?_eq ho hmethod]
    simp
  cases hfound : (m.ofKind .blockStmt).find? fun f =>
      f.blockType == some type && f.lines == ⟨e.lines.first, e.lines.last⟩
        && (m.enclosingMethod? f).map (·.index) == some o.index with
  | none => exact absurd hfits (List.find?_eq_none.mp hfound e (hblock he hkind))
  | some f =>
    have hmem := List.mem_of_find?_eq_some hfound
    obtain ⟨hf, hkind'⟩ := List.mem_filter.mp hmem
    obtain ⟨o', ho', hmethod'⟩ :=
      h.blockInMethod f (Array.mem_toList_iff.mp hf) (beq_iff_eq.mp hkind')
    have hsame := List.find?_some hfound
    simp only [Bool.and_eq_true, beq_iff_eq, enclosingMethod?_eq ho' hmethod', Option.map_some]
      at hsame
    obtain ⟨⟨htype', hlines⟩, howner⟩ := hsame
    have hcontainer : f.container = e.container := by
      rw [(h.container_eq ho').2, (h.container_eq ho).2, howner]
    refine congrArg some (List.inj_on_of_nodup_map h.blocksOnce hmem (hblock he hkind) ?_)
    rw [hcontainer, htype', htype, hlines]

/-- **Every element is found again** by the locator that is made of its own fields, which there is
but for a block without a type. -/
theorem element_found_again (h : m.Locatable) (he : e ∈ m.elements) :
    (Locator.of? m e = none ↔ e.kind = .blockStmt ∧ e.blockType = none) ∧
      ∀ l, Locator.of? m e = some l → l.find? m = some e := by
  cases hkind : e.kind with
  | classDecl =>
    rw [Locator.of?, hkind]
    refine ⟨by simp, ?_⟩
    rintro _ ⟨⟩
    exact h.classNamed_self he hkind
  | methodDecl =>
    rw [Locator.of?, hkind]
    refine ⟨by simp, ?_⟩
    rintro _ ⟨⟩
    exact h.methodOf?_self he hkind
  | attributeDecl =>
    rw [Locator.of?, hkind]
    refine ⟨by simp, ?_⟩
    rintro _ ⟨⟩
    exact h.attributeAt_self he hkind
  | variableDecl =>
    rw [Locator.of?, hkind]
    refine ⟨by simp, ?_⟩
    rintro _ ⟨⟩
    have hfound := h.innermost?_variable he hkind
    obtain hnone | ⟨o, ho, hmethod⟩ := h.variableInMethod e he hkind
    · have htop : m.enclosingMethod? e = none := by
        rw [enclosingMethod?, containerOf?, hnone, Option.bind_none, methodFrom?]
      rw [htop, Option.map_none, Locator.find?]
      rwa [hnone] at hfound
    · obtain ⟨hmem, hcontainer⟩ := h.container_eq ho
      rw [enclosingMethod?_eq ho hmethod, Option.map_some, Locator.find?]
      dsimp only
      rw [h.methodOf?_self hmem hmethod, Option.bind_some]
      rwa [hcontainer] at hfound
  | blockStmt =>
    rw [Locator.of?, hkind]
    obtain ⟨o, ho, hmethod⟩ := h.blockInMethod e he hkind
    dsimp only
    rw [enclosingMethod?_eq ho hmethod, Option.bind_some]
    refine ⟨by simp, fun l hl => ?_⟩
    obtain ⟨type, htype, rfl⟩ := Option.map_eq_some_iff.mp hl
    rw [Locator.find?, h.methodOf?_self (h.container_eq ho).1 hmethod, Option.bind_some]
    exact h.find?_block he hkind ho hmethod htype

end Locatable

/-- An element of which only the names and lines matter. -/
def entry (index : Nat) (kind : ElementKind) (name qualified : String) (container : Option Nat)
    (first last : Int) : Element :=
  ⟨index, kind, name, qualified, container, {}, ⟨first, last⟩, [], .node 0 "" "" ⟨first, last⟩ [],
    if kind = .blockStmt then some name else none⟩

/-- A file with a method in a method of its name, a class in a class in a class of its name, and
variables and attributes of one name in several places. -/
def nested : Model where
  path := "x.py"
  elements := #[
    entry 0 .classDecl "A" "A" none 1 12,
    entry 1 .attributeDecl "x" "A.x" (some 0) 2 2,
    entry 2 .methodDecl "f" "A.f" (some 0) 3 8,
    entry 3 .variableDecl "a" "A.f.a" (some 2) 4 4,
    entry 4 .methodDecl "f" "A.f.f" (some 2) 5 8,
    entry 5 .variableDecl "a" "A.f.f.a" (some 4) 6 6,
    entry 6 .blockStmt "if" "A.f.f/if" (some 4) 7 8,
    entry 7 .classDecl "B" "A.B" (some 0) 9 12,
    entry 8 .attributeDecl "x" "A.B.x" (some 7) 10 10,
    entry 9 .classDecl "A" "A.B.A" (some 7) 11 12,
    entry 10 .variableDecl "a" "a" none 13 13]
  tree := .node 0 "Module" "" ⟨1, 13⟩ []

theorem locatable_nested : nested.Locatable := by
  have hindex : ∀ p ∈ nested.elements.toList.zipIdx, p.1.index = p.2 := by decide
  have hnamed : ∀ e ∈ nested.elements.toList, e.qualifiedName = e.name ∨
      e.qualifiedName = nested.containerName e ++ String.singleton e.separator ++ e.name := by
    decide +kernel
  have hblock : ∀ e ∈ nested.elements.toList, e.kind = .blockStmt →
      (nested.containerOf? e).map (·.kind) = some .methodDecl := by decide
  have hvariable : ∀ e ∈ nested.elements.toList, e.kind = .variableDecl →
      e.container = none ∨ (nested.containerOf? e).map (·.kind) = some .methodDecl := by decide
  simp only [Array.mem_toList_iff] at hnamed hblock hvariable
  exact {
    index := fun i e he => hindex (e, i) (List.mem_zipIdx_iff_getElem?.mpr (by simpa using he))
    lines := by simp only [← Array.mem_toList_iff]; decide
    apart := by unfold Element.Apart; decide +kernel
    variablesOnce := by decide +kernel
    named := fun e he => (hnamed e he).imp_right fun h => ⟨_, h⟩
    simple := by simp only [← Array.mem_toList_iff]; decide +kernel
    blockInMethod := fun e he hkind => Option.map_eq_some_iff.mp (hblock e he hkind)
    variableInMethod := fun e he hkind => (hvariable e he hkind).imp_right Option.map_eq_some_iff.mp
    blocksOnce := by decide +kernel }

/-- The variable of the inner method, the inner of two classes of one name, and a block. -/
theorem element_found_again_nested :
    (Locator.variableAt (some ("f", 5)) "a" 6).find? nested = nested.elements[5]? ∧
      (Locator.classNamed "A.B.A" (some 11)).find? nested = nested.elements[9]? ∧
      (Locator.blockAt "f" 5 "if" 7 8).find? nested = nested.elements[6]? :=
  ⟨(locatable_nested.element_found_again (Array.getElem_mem (i := 5) (by decide))).2 _ rfl,
    (locatable_nested.element_found_again (Array.getElem_mem (i := 9) (by decide))).2 _ rfl,
    (locatable_nested.element_found_again (Array.getElem_mem (i := 6) (by decide))).2 _ rfl⟩

end Model
end Lineage
