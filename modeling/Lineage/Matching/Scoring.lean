import Lineage.Matching.Candidates
import Lineage.Sequence.Distance

/-!
The score of a candidate: a weighted mean of the similarities of name, signature and container and
of the share of the target's tree that has a counterpart in the candidate's.
-/

namespace Lineage

/-- A candidate with the parts of its score. -/
structure Scored (α : Type) where
  element : Element
  score : α
  nameSimilarity : α
  signatureSimilarity : α
  coverage : α
  containerSimilarity : α
  rangeDelta : Nat

/-- Path and container of an element, as they are compared. -/
def Model.containerPath (m : Model) (e : Element) : String :=
  m.path ++ "::" ++ m.containerName e

variable {α : Type} [Score α]

/-- The weighted mean of the four similarities, before it is moved into the unit interval. -/
def MatchingConfig.weightedMean (c : MatchingConfig α)
    (name signature coverage container : α) : α :=
  (c.nameWeight * name + c.signatureWeight * signature + c.coverageWeight * coverage
    + c.containerWeight * container) / c.totalWeight

namespace Lookup

/-- Scores one candidate. -/
def score (q : Lookup) (c : MatchingConfig α) (candidate : Element) : Scored α :=
  let name := Sequence.similarity q.target.name.toList candidate.name.toList
  let signature := Sequence.similarity q.target.signature.tokens candidate.signature.tokens
  let coverage := (c.matcher.run q.target.tree candidate.tree).coverage q.target.tree
  let container := Sequence.similarity (q.later.containerPath q.target).toList
    (q.earlier.containerPath candidate).toList
  { element := candidate
    score := Score.clamp (c.weightedMean name signature coverage container)
    nameSimilarity := name
    signatureSimilarity := signature
    coverage := coverage
    containerSimilarity := container
    rangeDelta := q.target.lines.delta candidate.lines }

end Lookup

namespace Scored

/-- The order of preference: a higher score, then a smaller distance in lines, then an earlier place
in the model. -/
def before (a b : Scored α) : Bool :=
  if Score.lt b.score a.score then true
  else if Score.lt a.score b.score then false
  else if a.rangeDelta < b.rangeDelta then true
  else if b.rangeDelta < a.rangeDelta then false
  else a.element.index < b.element.index

/-- The first candidate that none is preferred to. -/
def best? : List (Scored α) → Option (Scored α)
  | [] => none
  | s :: rest => some (rest.foldl (fun best t => if t.before best then t else best) s)

/-- The best candidate whose score reaches the threshold. -/
def select? (threshold : α) (scored : List (Scored α)) : Option (Scored α) :=
  best? (scored.filter fun s => Score.le threshold s.score)

end Scored

end Lineage
