import Lineage.Proofs.Element.Located
import Lineage.Proofs.Source.Standing

/-! # Classes that are looked up by name

A locator for a class without a line means the first class in the file that is called by the name,
its simple or its qualified one (`Locator.find?_called`).  So a class at top level is hidden by a
class of the same simple name that stands in another one further up (`Model.Shadowed`), and the
qualified name of a class finds a class of that qualified name exactly if none hides it
(`Model.qualified_class_found_iff`).
-/
namespace Lineage

/-- The element is a class, and the name is its simple or its qualified name. -/
def Element.Called (e : Element) (name : String) : Prop :=
  e.kind = .classDecl ∧ (name = e.name ∨ name = e.qualifiedName)

namespace Model
variable {m : Model} {d e : Element}

/-- A class of that simple name stands inside another element, and before every class of that
qualified name. -/
def Shadowed (m : Model) (name : String) : Prop :=
  ∃ d ∈ m.elements, d.kind = .classDecl ∧ d.container ≠ none ∧ d.name = name ∧
    ∀ e ∈ m.elements, e.kind = .classDecl → e.qualifiedName = name → d.index < e.index

/-- The first element that satisfies a condition has the smallest index. -/
theorem Indexed.find?_le (hm : m.Indexed) {p : Element → Bool}
    (h : m.elements.toList.find? p = some d) (he : e ∈ m.elements) (hp : p e = true) :
    d.index ≤ e.index := by
  have hrising : m.elements.toList.Pairwise (·.index < ·.index) :=
    List.pairwise_map.mp (hm ▸ List.pairwise_lt_range)
  obtain ⟨-, before, after, hsplit, hbefore⟩ := List.find?_eq_some_iff_append.mp h
  rw [hsplit] at hrising
  have hmem : e ∈ before ++ d :: after := hsplit ▸ Array.mem_toList_iff.mpr he
  rcases List.mem_append.mp hmem with hmem | hmem
  · have hnot := hbefore e hmem
    rw [hp] at hnot
    cases hnot
  · rcases List.mem_cons.mp hmem with rfl | hmem
    · exact Nat.le_refl _
    · exact Nat.le_of_lt ((List.pairwise_cons.mp (List.pairwise_append.mp hrising).2.1).1 e hmem)

/-- A locator without a line means the first class that is called by the name. -/
theorem Indexed.find?_called (hm : m.Indexed) {name : String} (he : e ∈ m.elements)
    (hcalled : e.Called name) :
    ∃ d ∈ m.elements, (Locator.classNamed name none).find? m = some d ∧ d.Called name ∧
      ∀ e ∈ m.elements, e.Called name → d.index ≤ e.index := by
  let fits (e : Element) : Bool :=
    e.kind == .classDecl && (name == e.name || name == e.qualifiedName)
  have hfits : ∀ e, fits e = true ↔ e.Called name := by
    simp only [fits, Bool.and_eq_true, Bool.or_eq_true, beq_iff_eq, Element.Called, implies_true]
  obtain ⟨d, hd⟩ := Option.isSome_iff_exists.mp
    (List.find?_isSome.mpr ⟨e, Array.mem_toList_iff.mpr he, (hfits e).mpr hcalled⟩)
  exact ⟨d, Array.mem_toList_iff.mp (List.mem_of_find?_eq_some hd), hd,
    (hfits d).mp (List.find?_some hd),
    fun e he hcalled => hm.find?_le hd he ((hfits e).mpr hcalled)⟩

/-- **The qualified name of a class finds the first class that is called by it**, and that class has
this qualified name exactly if no class of that simple name stands inside another element before all
that have it.  Where simple names hold no dot, that can only happen to a class at top level. -/
theorem qualified_class_found_iff {named? : List Char → Option Nat} {bytes : List UInt8}
    {path : String} (h : Model.ofBytes named? bytes path = .ok m) {c : Element}
    (hc : c ∈ m.elements) (hclass : c.kind = .classDecl) :
    ∃ d ∈ m.elements, (Locator.classNamed c.qualifiedName none).find? m = some d ∧
      d.Called c.qualifiedName ∧
      (∀ e ∈ m.elements, e.Called c.qualifiedName → d.index ≤ e.index) ∧
      (d.qualifiedName = c.qualifiedName ↔ ¬ m.Shadowed c.qualifiedName) ∧
      (c.container ≠ none → (∀ e ∈ m.elements, e.kind = .classDecl → '.' ∉ e.name.toList) →
        d.qualifiedName = c.qualifiedName) := by
  have hindexed : m.Indexed := ofBytes_indexed h
  have htitled : ∀ e ∈ m.elements, e.Titled := ofBytes_titled h
  obtain ⟨d, hd, hfound, hcalled, hfirst⟩ := hindexed.find?_called hc ⟨hclass, .inr rfl⟩
  have hiff : d.qualifiedName = c.qualifiedName ↔ ¬ m.Shadowed c.qualifiedName := by
    constructor
    · rintro hsame ⟨s, hs, hsclass, -, hsname, hbefore⟩
      have hle := hfirst s hs ⟨hsclass, .inl hsname.symm⟩
      have hlt := hbefore d hd hcalled.1 hsame
      omega
    · intro hnot
      by_contra hne
      have hname : c.qualifiedName = d.name := hcalled.2.resolve_right fun heq => hne heq.symm
      have hinside : d.container ≠ none := by
        cases htitled d hd with
        | alone _ named => exact absurd (named.trans hname.symm) hne
        | inside container => exact container
      refine hnot ⟨d, hd, hcalled.1, hinside, hname.symm, fun e he heclass hsame => ?_⟩
      have hle := hfirst e he ⟨heclass, .inr hsame.symm⟩
      refine Nat.lt_of_le_of_ne hle fun hindex => hne ?_
      rw [hindexed.eq_of_index (Array.mem_toList_iff.mpr hd) (Array.mem_toList_iff.mpr he) hindex,
        hsame]
  refine ⟨d, hd, hfound, hcalled, hfirst, hiff, fun hinside hdotless => hiff.mpr ?_⟩
  rintro ⟨s, hs, hsclass, -, hsname, -⟩
  cases htitled c hc with
  | alone container => exact hinside container
  | inside _ outer named =>
    refine hdotless s hs hsclass ?_
    rw [hsname, named, Element.separator, hclass]
    simp

/-! ### Two classes of one simple name -/

/-- A class in a class, and after it one of its simple name at top level. -/
def twoOfOneName : List UInt8 :=
  "class A:\n    class B:\n        pass\nclass B:\n    pass\n".toUTF8.toList

/-- Facts about the outer class of the file, the inner one, and the one that stands alone. -/
def threeClassesTell (facts : Model → Element → Element → Element → Bool) : Bool :=
  match Model.ofBytes (fun _ => none) twoOfOneName "x.py" with
  | .ok m =>
    match m.elements.toList with
    | [outer, inner, alone] => facts m outer inner alone
    | _ => false
  | .error _ => false

theorem exists_of_threeClassesTell {facts : Model → Element → Element → Element → Bool}
    (h : threeClassesTell facts = true) : ∃ m outer inner alone,
      Model.ofBytes (fun _ => none) twoOfOneName "x.py" = .ok m ∧
      m.elements.toList = [outer, inner, alone] ∧ facts m outer inner alone = true := by
  unfold threeClassesTell at h
  split at h
  · next m hm =>
    split at h
    · next outer inner alone helements => exact ⟨m, outer, inner, alone, hm, helements, h⟩
    · cases h
  · cases h

/-- The name of the class at top level finds a class of another qualified name. -/
theorem threeClasses_found : ∃ m outer inner alone,
    Model.ofBytes (fun _ => none) twoOfOneName "x.py" = .ok m ∧
    m.elements.toList = [outer, inner, alone] ∧
    (∀ e ∈ m.elements, e.kind = .classDecl ∧ '.' ∉ e.name.toList) ∧ inner.container ≠ none ∧
    ∃ d, (Locator.classNamed alone.qualifiedName none).find? m = some d ∧
      d.qualifiedName ≠ alone.qualifiedName := by
  have htell : threeClassesTell (fun m outer inner alone =>
      (∀ e ∈ m.elements.toList, e.kind = .classDecl ∧ '.' ∉ e.name.toList) ∧
        inner.container ≠ none ∧
        ∃ d ∈ (Locator.classNamed alone.qualifiedName none).find? m,
          d.qualifiedName ≠ alone.qualifiedName) = true := by
    decide +kernel
  obtain ⟨m, outer, inner, alone, hm, helements, hfacts⟩ := exists_of_threeClassesTell htell
  obtain ⟨hclass, hinside, hother⟩ := of_decide_eq_true hfacts
  exact ⟨m, outer, inner, alone, hm, helements,
    fun e he => hclass e (Array.mem_toList_iff.mpr he), hinside, hother⟩

/-- The inner class is found by its qualified name, and hides the one at top level. -/
theorem qualified_class_found_iff_twoOfOneName : ∃ m outer inner alone,
    Model.ofBytes (fun _ => none) twoOfOneName "x.py" = .ok m ∧
    m.elements.toList = [outer, inner, alone] ∧
    (∃ d, (Locator.classNamed inner.qualifiedName none).find? m = some d ∧
      d.qualifiedName = inner.qualifiedName) ∧
    m.Shadowed alone.qualifiedName := by
  obtain ⟨m, outer, inner, alone, hm, helements, hclass, hinside, other, hother, hne⟩ :=
    threeClasses_found
  have hinner : inner ∈ m.elements := Array.mem_toList_iff.mp (helements ▸ by simp)
  have halone : alone ∈ m.elements := Array.mem_toList_iff.mp (helements ▸ by simp)
  obtain ⟨d, -, hd, -, -, -, hnested⟩ := qualified_class_found_iff hm hinner (hclass inner hinner).1
  obtain ⟨d', -, hd', -, -, hiff, -⟩ := qualified_class_found_iff hm halone (hclass alone halone).1
  refine ⟨m, outer, inner, alone, hm, helements, ⟨d, hd, ?_⟩, ?_⟩
  · exact hnested hinside fun e he _ => (hclass e he).2
  · obtain rfl := Option.some.inj (hd'.symm.trans hother)
    exact not_not.mp fun hnot => hne (hiff.mpr hnot)

/-- The class at top level is not found by its qualified name. -/
theorem not_qualified_class_found : ¬ ∀ named? bytes path m,
    Model.ofBytes named? bytes path = .ok m → ∀ c ∈ m.elements, c.kind = .classDecl →
      ∃ d, (Locator.classNamed c.qualifiedName none).find? m = some d ∧ d.kind = .classDecl ∧
        d.qualifiedName = c.qualifiedName := by
  intro hclaim
  obtain ⟨m, outer, inner, alone, hm, helements, hclass, -, other, hother, hne⟩ :=
    threeClasses_found
  have halone : alone ∈ m.elements := Array.mem_toList_iff.mp (helements ▸ by simp)
  obtain ⟨d, hd, -, hsame⟩ := hclaim _ _ _ m hm alone halone (hclass alone halone).1
  obtain rfl := Option.some.inj (hd.symm.trans hother)
  exact hne hsame

end Model
end Lineage
