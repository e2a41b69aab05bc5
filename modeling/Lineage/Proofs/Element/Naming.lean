import Lineage.Element.Model
import Mathlib.Data.List.TakeWhile

/-! # How elements are named

An element is named after its container: its qualified name is that of the container, a separator
and its simple name.  Simple names hold no separator, so the qualified name determines the simple
name among elements of one kind (`Qualified.name_eq`), wherever the two elements stand, and with it
the name of the container (`Qualified.container_eq`).
-/
namespace Lineage

namespace Element

/-- What stands between the qualified name of the container and the simple name. -/
def separator (e : Element) : Char := if e.kind = .blockStmt then '/' else '.'

theorem separator_eq {e e' : Element} (hkind : e.kind = e'.kind) : e.separator = e'.separator := by
  rw [separator, separator, hkind]

/-- A qualified name is the simple name, or ends in a separator and the simple name. -/
def EndsInName (e : Element) : Prop :=
  e.qualifiedName = e.name ∨
    ∃ outer, e.qualifiedName = outer ++ String.singleton e.separator ++ e.name

/-- An element at top level has its simple name as qualified name, one that stands in another
element has something and a separator before it. -/
inductive Titled (e : Element) : Prop
  | alone (container : e.container = none) (named : e.qualifiedName = e.name)
  | inside (container : e.container ≠ none) (outer : String)
      (named : e.qualifiedName = outer ++ String.singleton e.separator ++ e.name)

/-- The simple name is what stands after the last separator. -/
theorem EndsInName.takeWhile {e : Element} (h : e.EndsInName)
    (hsimple : e.separator ∉ e.name.toList) :
    e.qualifiedName.toList.reverse.takeWhile (· ≠ e.separator) = e.name.toList.reverse := by
  have hname : ∀ a ∈ e.name.toList.reverse, decide (a ≠ e.separator) = true := fun a ha =>
    decide_eq_true fun heq => hsimple (heq ▸ List.mem_reverse.mp ha)
  obtain hqualified | ⟨outer, hqualified⟩ := h
  · rw [hqualified]
    exact List.takeWhile_eq_self_iff.mpr hname
  · -- read from the end, the separator comes right after the simple name
    rw [hqualified, String.toList_append, String.toList_append, List.reverse_append,
      List.reverse_append, String.toList_singleton, List.takeWhile_append_of_pos hname,
      List.reverse_singleton, List.singleton_append, List.takeWhile_cons_of_neg (by simp),
      List.append_nil]

end Element

namespace Model

/-- The elements are named after their containers. -/
structure Qualified (m : Model) : Prop where
  simple : ∀ e ∈ m.elements, '.' ∉ e.name.toList ∧ '/' ∉ e.name.toList
  atTop : ∀ e ∈ m.elements, e.container = none → e.qualifiedName = e.name
  inside : ∀ e ∈ m.elements, ∀ i, e.container = some i → ∃ c, m.elements[i]? = some c ∧
    e.qualifiedName = c.qualifiedName ++ String.singleton e.separator ++ e.name

/-- The elements are named after their containers, and blocks alone have a block type, which is
their simple name. -/
structure Named (m : Model) : Prop extends Qualified m where
  blockType : ∀ e ∈ m.elements,
    e.blockType = if e.kind = .blockStmt then some e.name else none

/-- The elements are named after their containers, and those of blocks and variables are methods. -/
structure Scoped (m : Model) : Prop extends Qualified m where
  inMethod : ∀ e ∈ m.elements, e.isLocal = true → ∀ c, m.containerOf? e = some c →
    c.kind = .methodDecl

variable {m m' : Model} {e e' : Element}

namespace Qualified

theorem separator_notMem (h : m.Qualified) (he : e ∈ m.elements) :
    e.separator ∉ e.name.toList := by
  unfold Element.separator
  split
  · exact (h.simple e he).2
  · exact (h.simple e he).1

/-- A qualified name is a simple name or begins with that of the container. -/
theorem qualifiedName_cases (h : m.Qualified) (he : e ∈ m.elements) :
    (m.containerOf? e = none ∧ e.qualifiedName = e.name) ∨
      ∃ c, m.containerOf? e = some c ∧
        e.qualifiedName = c.qualifiedName ++ String.singleton e.separator ++ e.name := by
  cases hcontainer : e.container with
  | none =>
    refine .inl ⟨?_, h.atTop e he hcontainer⟩
    rw [containerOf?, hcontainer]
    rfl
  | some i =>
    obtain ⟨c, hc, hqualified⟩ := h.inside e he i hcontainer
    refine .inr ⟨c, ?_, hqualified⟩
    rw [containerOf?, hcontainer]
    exact hc

/-- The simple name is what stands after the last separator. -/
theorem takeWhile_qualifiedName (h : m.Qualified) (he : e ∈ m.elements) :
    e.qualifiedName.toList.reverse.takeWhile (· ≠ e.separator) = e.name.toList.reverse := by
  refine Element.EndsInName.takeWhile ?_ (h.separator_notMem he)
  exact (h.qualifiedName_cases he).imp And.right fun ⟨c, _, hqualified⟩ => ⟨_, hqualified⟩

/-- Elements of one kind and one qualified name have one simple name. -/
theorem name_eq (h : m.Qualified) (h' : m'.Qualified) (he : e ∈ m.elements)
    (he' : e' ∈ m'.elements) (hkind : e.kind = e'.kind)
    (hqualified : e.qualifiedName = e'.qualifiedName) : e.name = e'.name := by
  refine String.toList_inj.mp (List.reverse_inj.mp ?_)
  rw [← h.takeWhile_qualifiedName he, ← h'.takeWhile_qualifiedName he', hqualified,
    Element.separator_eq hkind]

/-- What stands at top level is not named as what stands in a container. -/
theorem name_ne_inside (h : m.Qualified) (he : e ∈ m.elements) (hkind : e.kind = e'.kind)
    (name : String) : e.name ≠ name ++ String.singleton e'.separator ++ e'.name := by
  intro heq
  refine h.separator_notMem he ?_
  rw [heq, String.toList_append, String.toList_append, String.toList_singleton,
    Element.separator_eq hkind]
  exact List.mem_append_left _ (List.mem_append_right _ (List.mem_singleton.mpr rfl))

/-- Elements of one kind and one qualified name stand in containers of one name, or both at top
level. -/
theorem container_eq (h : m.Qualified) (h' : m'.Qualified) (he : e ∈ m.elements)
    (he' : e' ∈ m'.elements) (hkind : e.kind = e'.kind)
    (hqualified : e.qualifiedName = e'.qualifiedName) :
    (m.containerOf? e).map (·.qualifiedName) = (m'.containerOf? e').map (·.qualifiedName) := by
  have hname := h.name_eq h' he he' hkind hqualified
  rcases h.qualifiedName_cases he with ⟨hc, hq⟩ | ⟨c, hc, hq⟩ <;>
    rcases h'.qualifiedName_cases he' with ⟨hc', hq'⟩ | ⟨c', hc', hq'⟩
  · rw [hc, hc']
  · have heq := hq.symm.trans (hqualified.trans hq')
    exact absurd heq (h.name_ne_inside he hkind c'.qualifiedName)
  · have heq := hq'.symm.trans (hqualified.symm.trans hq)
    exact absurd heq (h'.name_ne_inside he' hkind.symm c.qualifiedName)
  · rw [hq, hq', hname, Element.separator_eq hkind, ← String.toList_inj] at hqualified
    simp only [String.toList_append] at hqualified
    have hcontainer := String.toList_inj.mp
      (List.append_cancel_right (List.append_cancel_right hqualified))
    rw [hc, hc', Option.map_some, Option.map_some, hcontainer]

end Qualified

theorem containerName_eq (m : Model) (e : Element) :
    m.containerName e = ((m.containerOf? e).map (·.qualifiedName)).getD "" := by
  rw [containerName]
  cases m.containerOf? e <;> rfl

/-- The method around a block or a variable is its container. -/
theorem Scoped.enclosingMethod? (h : m.Scoped) (he : e ∈ m.elements) (hlocal : e.isLocal = true) :
    m.enclosingMethod? e = m.containerOf? e := by
  rw [Model.enclosingMethod?]
  cases hc : m.containerOf? e with
  | none => rw [methodFrom?]
  | some c => rw [methodFrom?, if_pos (beq_iff_eq.mpr (h.inMethod e he hlocal c hc))]

/-- Only blocks have block types. -/
theorem Named.blockType_eq (h : m.Named) (h' : m'.Named) (he : e ∈ m.elements)
    (he' : e' ∈ m'.elements) (hkind : e.kind = e'.kind)
    (hblock : e.kind = .blockStmt → e.blockType = e'.blockType) : e.blockType = e'.blockType := by
  by_cases hkinds : e.kind = .blockStmt
  · exact hblock hkinds
  · rw [h.blockType e he, h'.blockType e' he', if_neg hkinds, if_neg (hkind ▸ hkinds)]

end Model
end Lineage
