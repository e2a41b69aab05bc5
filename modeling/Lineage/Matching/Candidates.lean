import Lineage.Element.Model
import Lineage.Matching.Config

/-!
Candidates for the earlier version of an element. They are looked up in tiers, from the cheapest and
most specific rule to a comparison of the whole files. `candidatesFor` takes the first tier that has
any; `candidateTiers` lists them all.
-/

namespace Lineage

/-- The rules by which candidates are looked up, in order. -/
inductive Tier where
  | exact
  | name
  | container
  | containment
  | wholeFile
  deriving DecidableEq, Repr

namespace Tier

/-- The tiers in order. -/
def all : List Tier := [exact, name, container, containment, wholeFile]

/-- The place of a tier, counted from one. -/
def rank : Tier → Nat
  | exact => 1
  | name => 2
  | container => 3
  | containment => 4
  | wholeFile => 5

end Tier

/-- Candidates and the tier that found them. The comparison of whole files also leaves the node
correspondence that it is based on. -/
structure Found where
  tier : Tier
  elements : List Element
  mapping : Option NodeMapping := none

/-- A target and the two models between which it is followed. -/
structure Lookup where
  target : Element
  later : Model
  earlier : Model

namespace Lookup

/-- The elements of the earlier model that are of the target's kind; blocks also need its type. -/
def sameKind (q : Lookup) : List Element :=
  q.earlier.elements.toList.filter fun e =>
    e.kind == q.target.kind && (q.target.kind != .blockStmt || e.blockType == q.target.blockType)

/-- The candidate stands in the target's container, which may have been renamed: a container of
another name counts only if the later model no longer declares it. For blocks and variables the
methods around them need the same simple name. -/
def containerCompatible (q : Lookup) (candidate : Element) : Bool :=
  if q.target.isLocal then
    match q.later.enclosingMethod? q.target, q.earlier.enclosingMethod? candidate with
    | some m, some n => m.name == n.name
    | none, none => true
    | _, _ => false
  else
    match q.later.containerOf? q.target, q.earlier.containerOf? candidate with
    | some c, some d =>
      if c.kind != d.kind then false
      else c.qualifiedName == d.qualifiedName || !q.later.hasDeclaration d.kind d.qualifiedName
    | none, none => true
    | _, _ => false

/-- The identities of the counterparts of the target's nodes. -/
def counterparts (q : Lookup) (mapping : NodeMapping) : Std.TreeMap Nat Unit :=
  q.target.tree.preorder.foldl (fun ids n =>
    match mapping.mapped? n with
    | some c => ids.insert c.id ()
    | none => ids) {}

/-- The elements that hold most counterparts of the target's nodes, at most `limit` of them. -/
def byCounterparts (q : Lookup) (mapping : NodeMapping) (limit : Nat) : List Element :=
  let ids := q.counterparts mapping
  let counted := q.sameKind.filterMap fun e =>
    let count : Nat := e.tree.preorder.countP fun n => ids.contains n.id
    if count = 0 then none else some (count, e)
  let sorted := counted.mergeSort fun a b =>
    if a.1 = b.1 then a.2.index ≤ b.2.index else b.1 < a.1
  (sorted.take limit).map (·.2)

/-- The candidates of one tier. The last tier needs a matcher. -/
def inTier {α : Type} [Score α] (q : Lookup) (matcher : Option (Matcher α)) (limit : Nat) :
    Tier → Found
  | .exact => ⟨.exact, q.sameKind.filter fun e =>
      e.qualifiedName == q.target.qualifiedName && e.signature == q.target.signature, none⟩
  | .name => ⟨.name, q.sameKind.filter fun e => e.qualifiedName == q.target.qualifiedName, none⟩
  | .container => ⟨.container, q.sameKind.filter fun e =>
      e.name == q.target.name && q.containerCompatible e, none⟩
  | .containment => ⟨.containment, q.sameKind.filter fun e =>
      e.lines.overlapsWholly q.target.lines, none⟩
  | .wholeFile =>
    match matcher with
    | none => ⟨.wholeFile, [], none⟩
    | some s =>
      if q.sameKind.isEmpty then ⟨.wholeFile, [], none⟩
      else
        let mapping := s.run q.later.tree q.earlier.tree
        ⟨.wholeFile, q.byCounterparts mapping limit, some mapping⟩

/-- The first of the given tiers that has candidates. -/
def firstTier? {α : Type} [Score α] (q : Lookup) (matcher : Option (Matcher α)) (limit : Nat) :
    List Tier → Option Found
  | [] => none
  | tier :: rest =>
    let found := q.inTier matcher limit tier
    if found.elements.isEmpty then q.firstTier? matcher limit rest else some found

/-- The candidates of the first tier that has any; `none` where the element may have been
introduced. -/
def candidatesFor {α : Type} [Score α] (q : Lookup) (matcher : Option (Matcher α)) (limit : Nat) :
    Option Found :=
  q.firstTier? matcher limit Tier.all

/-- All tiers that have candidates, in order. -/
def candidateTiers {α : Type} [Score α] (q : Lookup) (matcher : Option (Matcher α)) (limit : Nat) :
    List Found :=
  (Tier.all.map (q.inTier matcher limit)).filter fun found => !found.elements.isEmpty

end Lookup

end Lineage
