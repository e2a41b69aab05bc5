import Lineage.Proofs.Element.Naming
import Mathlib.Data.List.Nodup
import Mathlib.Logic.Function.Iterate

/-!
# Well-formed elements

What the elements of a file look like as a list (`WellFormed`): each stands at its index, alone or
inside an earlier element of a kind that may hold it, is named after that element and lies within
its lines; the list goes down the file; and a variable or an attribute is declared once in its
container. A container comes before what it contains, so every way outwards ends
(`Model.iterate_containerOf?`), and the search for the method around an element does too.
-/

namespace Lineage

namespace ElementKind

/-- Elements of the first kind may stand directly inside those of the second: declarations in
classes and methods, attributes in classes, variables and blocks in methods. -/
def StandsIn : ElementKind → ElementKind → Prop
  | classDecl, k | methodDecl, k => k = classDecl ∨ k = methodDecl
  | attributeDecl, k => k = classDecl
  | variableDecl, k | blockStmt, k => k = methodDecl

/-- Elements of the kind may stand at top level. -/
def StandsAlone : ElementKind → Prop
  | classDecl | methodDecl | variableDecl => True
  | attributeDecl | blockStmt => False

end ElementKind

namespace Element

/-- An element stands at top level under its simple name, or inside an earlier one, after which it
is named and in whose lines it lies. -/
inductive Housed (es : Array Element) (e : Element) : Prop
  | alone (container : e.container = none) (kind : e.kind.StandsAlone)
      (named : e.qualifiedName = e.name)
  | within (i : Nat) (o : Element) (container : e.container = some i) (before : i < e.index)
      (found : es[i]? = some o) (kind : e.kind.StandsIn o.kind)
      (named : e.qualifiedName = o.qualifiedName ++ String.singleton e.separator ++ e.name)
      (lines : o.lines.contains e.lines = true)

theorem Housed.mono {es es' : Array Element} {e : Element} (h : Housed es e)
    (hkeeps : ∀ (i : Nat) (a : Element), es[i]? = some a → es'[i]? = some a) : Housed es' e := by
  cases h with
  | alone container kind named => exact .alone container kind named
  | within i o container before found kind named lines =>
    exact .within i o container before (hkeeps i o found) kind named lines

end Element

/-- The containers and names of the elements of a kind. -/
def keysOf (kind : ElementKind) (es : Array Element) : List (Option Nat × String) :=
  (es.toList.filter (·.kind = kind)).map fun e => (e.container, e.name)

theorem keysOf_push (kind : ElementKind) (es : Array Element) (e : Element) :
    keysOf kind (es.push e)
      = keysOf kind es ++ if e.kind = kind then [(e.container, e.name)] else [] := by
  rw [keysOf, keysOf, Array.toList_push, List.filter_append, List.map_append, List.filter_singleton]
  by_cases hkind : e.kind = kind
  · rw [decide_eq_true hkind, if_pos hkind]
    rfl
  · rw [decide_eq_false hkind, if_neg hkind]
    rfl

/-- The elements of a file are well formed. -/
structure WellFormed (es : Array Element) : Prop where
  index : ∀ (i : Nat) (e : Element), es[i]? = some e → e.index = i
  housed : ∀ e ∈ es, e.Housed es
  blockType : ∀ e ∈ es, e.blockType = if e.kind = .blockStmt then some e.name else none
  rising : es.toList.Pairwise fun a b => a.lines.first ≤ b.lines.first
  variablesOnce : (keysOf .variableDecl es).Nodup
  attributesOnce : (keysOf .attributeDecl es).Nodup

theorem wellFormed_empty : WellFormed #[] :=
  ⟨fun _ _ h => (nomatch h), fun _ h => (nomatch h), fun _ h => (nomatch h), List.Pairwise.nil,
    List.nodup_nil, List.nodup_nil⟩

variable {es : Array Element} {e : Element}

/-- Elements stay where they are when one is added. -/
theorem getElem?_push_of_some {i : Nat} {a : Element} (h : es[i]? = some a) :
    (es.push e)[i]? = some a := by
  obtain ⟨hi, -⟩ := Array.getElem?_eq_some_iff.mp h
  rw [Array.getElem?_push, if_neg (Nat.ne_of_lt hi), h]

/-- A name that no element of the kind has in that container stays the only one when it is added. -/
theorem nodup_keysOf_push {kind : ElementKind} (h : (keysOf kind es).Nodup)
    (hfresh : e.kind = kind → (e.container, e.name) ∉ keysOf kind es) :
    (keysOf kind (es.push e)).Nodup := by
  rw [keysOf_push]
  split
  · next hkind =>
    exact List.nodup_append'.mpr
      ⟨h, List.nodup_singleton _, List.disjoint_singleton.mpr (hfresh hkind)⟩
  · rwa [List.append_nil]

/-- An element may be added at the end if it is housed among those before, starts after them, and
has a name of its own if it is a variable or an attribute. -/
theorem WellFormed.push (h : WellFormed es) (hindex : e.index = es.size) (hhoused : e.Housed es)
    (hblock : e.blockType = if e.kind = .blockStmt then some e.name else none)
    (hrising : ∀ a ∈ es, a.lines.first ≤ e.lines.first)
    (hvariable : e.kind = .variableDecl → (e.container, e.name) ∉ keysOf .variableDecl es)
    (hattribute : e.kind = .attributeDecl → (e.container, e.name) ∉ keysOf .attributeDecl es) :
    WellFormed (es.push e) := by
  refine ⟨fun i a ha => ?_, fun a ha => ?_, fun a ha => ?_, ?_,
    nodup_keysOf_push h.variablesOnce hvariable, nodup_keysOf_push h.attributesOnce hattribute⟩
  · rw [Array.getElem?_push] at ha
    split at ha
    · next hi =>
      obtain rfl := Option.some.inj ha
      rw [hindex, hi]
    · exact h.index i a ha
  · rcases Array.mem_push.mp ha with ha | rfl
    · exact (h.housed a ha).mono fun _ _ => getElem?_push_of_some
    · exact hhoused.mono fun _ _ => getElem?_push_of_some
  · rcases Array.mem_push.mp ha with ha | rfl
    · exact h.blockType a ha
    · exact hblock
  · rw [Array.toList_push, List.pairwise_append]
    refine ⟨h.rising, List.pairwise_singleton _ _, fun a ha b hb => ?_⟩
    obtain rfl := List.mem_singleton.mp hb
    exact hrising a (Array.mem_toList_iff.mp ha)

namespace Model
variable {m : Model}

/-- The way outwards from an element ends after as many steps as there are elements before it, and
one more. -/
theorem iterate_containerOf? (h : WellFormed m.elements) {n : Nat} (he : e ∈ m.elements)
    (hn : e.index < n) :
    (fun e? : Option Element => e?.bind m.containerOf?)^[n] (some e) = none := by
  induction n generalizing e with
  | zero => exact absurd hn (Nat.not_lt_zero _)
  | succ n ih =>
    rw [Function.iterate_succ_apply]
    show (fun e? : Option Element => e?.bind m.containerOf?)^[n] (m.containerOf? e) = none
    cases h.housed e he with
    | alone container kind named =>
      rw [containerOf?, container]
      exact Function.iterate_fixed rfl n
    | within i o container before found kind named lines =>
      have ho : m.containerOf? e = some o := by
        rw [containerOf?, container]
        exact found
      rw [ho]
      refine ih (Array.mem_of_getElem? found) ?_
      rw [h.index i o found]
      omega

/-- The search for a method has room to end. -/
theorem methodFrom?_eq (h : WellFormed m.elements) {n k : Nat} (he : e ∈ m.elements)
    (hn : e.index < n) (hk : e.index < k) :
    m.methodFrom? n (some e) = m.methodFrom? k (some e) := by
  induction n generalizing e k with
  | zero => exact absurd hn (Nat.not_lt_zero _)
  | succ n ih =>
    cases k with
    | zero => exact absurd hk (Nat.not_lt_zero _)
    | succ k =>
      rw [methodFrom?, methodFrom?]
      split
      · rfl
      · cases h.housed e he with
        | alone container kind named =>
          rw [containerOf?, container, Option.bind_none, methodFrom?, methodFrom?]
        | within i o container before found kind named lines =>
          have ho : m.containerOf? e = some o := by
            rw [containerOf?, container]
            exact found
          have hindex := h.index i o found
          rw [ho]
          exact ih (Array.mem_of_getElem? found) (by omega) (by omega)

/-- The search from a container does not run out of steps. -/
theorem methodFrom?_containerOf? (h : WellFormed m.elements) (e : Element) {n : Nat}
    (hn : m.size ≤ n) : m.methodFrom? (n + 1) (m.containerOf? e) = m.enclosingMethod? e := by
  rw [enclosingMethod?]
  cases hcontainer : m.containerOf? e with
  | none => rw [methodFrom?, methodFrom?]
  | some o =>
    obtain ⟨i, -, ho⟩ := Option.bind_eq_some_iff.mp hcontainer
    obtain ⟨hi, -⟩ := Array.getElem?_eq_some_iff.mp ho
    have hindex := h.index i o ho
    have hsize : i < m.size := hi
    exact methodFrom?_eq h (Array.mem_of_getElem? ho) (by omega) (by omega)

end Model

end Lineage
