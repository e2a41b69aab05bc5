import Lineage.Matching.Scoring
import Lineage.Sequence.Blocks

/-!
The label of a change between two versions of an element, and the classification of a target: the
best candidate together with its label. Where several labels apply the most structural one wins:
extraction and inlining, then change of container, rename, signature and body.
-/

namespace Lineage

/-- What happened to an element between two of its versions. -/
inductive ChangeKind where
  | unchanged
  | bodyChange
  | rename
  | signatureChange
  | containerChange
  | extract
  | inlined
  | introduced
  | removed
  deriving DecidableEq, Repr, Inhabited

namespace ChangeKind

/-- All kinds of change. -/
def all : List ChangeKind :=
  [unchanged, bodyChange, rename, signatureChange, containerChange, extract, inlined, introduced,
    removed]

/-- The word for a kind of change. -/
def text : ChangeKind → String
  | unchanged => "unchanged"
  | bodyChange => "body_change"
  | rename => "rename"
  | signatureChange => "signature_change"
  | containerChange => "container_change"
  | extract => "extract"
  | inlined => "inline"
  | introduced => "introduced"
  | removed => "removed"

/-- The kind of change that a word stands for. -/
def ofText? (s : String) : Option ChangeKind := all.find? fun k => k.text == s

end ChangeKind

variable {α : Type} [Score α]

namespace Lookup

/-- Extraction or inlining: the code moved between declarations of which one is new or gone. Blocks
and variables are judged by the methods around them, other elements by their own names and by the
share of their tokens that is found in the other one. -/
def extraction? (q : Lookup) (fragmentRatio : α) (candidate : Element) : Option ChangeKind :=
  if q.target.isLocal then
    match q.later.enclosingMethod? q.target, q.earlier.enclosingMethod? candidate with
    | some owner, some source =>
      if owner.qualifiedName == source.qualifiedName then none
      else
        let ownerIsNew := !q.earlier.hasDeclaration .methodDecl owner.qualifiedName
        let sourceIsGone := !q.later.hasDeclaration .methodDecl source.qualifiedName
        if ownerIsNew && !sourceIsGone then some .extract
        else if sourceIsGone && !ownerIsNew then some .inlined
        else none
    | _, _ => none
  else if q.target.qualifiedName == candidate.qualifiedName then none
  else
    let targetIsNew := !q.earlier.hasDeclaration q.target.kind q.target.qualifiedName
    let sourceRemains := q.later.hasDeclaration candidate.kind candidate.qualifiedName
    if targetIsNew && sourceRemains then
      if Score.le fragmentRatio (Sequence.fragmentRatio q.target.bodyTokens candidate.bodyTokens)
      then some .extract else none
    else if !targetIsNew && !sourceRemains then
      if Score.le fragmentRatio (Sequence.fragmentRatio candidate.bodyTokens q.target.bodyTokens)
      then some .inlined else none
    else none

/-- The two versions stand in differently named declarations. -/
def ownersDiffer (q : Lookup) (candidate : Element) : Bool :=
  if q.target.isLocal then
    (q.later.enclosingMethod? q.target).map (·.qualifiedName)
      != (q.earlier.enclosingMethod? candidate).map (·.qualifiedName)
  else q.later.containerName q.target != q.earlier.containerName candidate

/-- The label of the change from `candidate` to the target. A block of another statement type has a
changed body. Digests leave out declaration names, so the names of members are compared too. -/
def labelChange (q : Lookup) (fragmentRatio : α) (candidate : Element) : ChangeKind :=
  match q.extraction? fragmentRatio candidate with
  | some kind => kind
  | none =>
    if q.ownersDiffer candidate || q.later.path != q.earlier.path then .containerChange
    else if q.target.name != candidate.name then
      if q.target.kind == .blockStmt then .bodyChange else .rename
    else if q.target.signature != candidate.signature then .signatureChange
    else if q.target.tree.digest != candidate.tree.digest
        || q.target.bodyTokens != candidate.bodyTokens then .bodyChange
    else if q.later.memberNames q.target != q.earlier.memberNames candidate then .bodyChange
    else .unchanged

end Lookup

/-- The outcome of matching a target against the elements of one earlier model. Without a chosen
candidate the kind is `introduced` and the score the best one that was seen. -/
structure Classification (α : Type) where
  chosen : Option (Scored α)
  kind : ChangeKind
  score : α
  scored : List (Scored α)

/-- The largest score of a list, zero for an empty list. -/
def Scored.largest : List (Scored α) → α
  | [] => Score.zero
  | s :: rest => rest.foldl (fun best t => Score.larger best t.score) s.score

/-- Scores the candidates, picks one and labels the change. -/
def Lookup.classify (q : Lookup) (c : MatchingConfig α) (candidates : List Element) :
    Classification α :=
  let scored := candidates.map (q.score c)
  match Scored.select? c.threshold scored with
  | none => ⟨none, .introduced, Scored.largest scored, scored⟩
  | some s => ⟨some s, q.labelChange c.fragmentRatio s.element, s.score, scored⟩

end Lineage
