import Lineage.Tree.Matching

/-!
The settings of matching: weights and threshold of the score, and the tunables of the tree matcher.
-/

namespace Lineage

/-- The settings of matching. Only the ratios of the weights matter. -/
structure MatchingConfig (α : Type) where
  threshold : α
  nameWeight : α
  signatureWeight : α
  coverageWeight : α
  containerWeight : α
  minAnchorHeight : Int
  propagationSimilarity : α
  maxAstCandidates : Int
  fragmentRatio : α

namespace MatchingConfig

/-- The settings of the tree matcher. -/
def matcher {α : Type} (c : MatchingConfig α) : Matcher α :=
  ⟨c.minAnchorHeight, c.propagationSimilarity⟩

/-- The sum of the four weights. -/
def totalWeight {α : Type} [Score α] (c : MatchingConfig α) : α :=
  c.nameWeight + c.signatureWeight + c.coverageWeight + c.containerWeight

/-- The settings that apply when nothing else is given. A pure rename still scores high, because
signature and coverage weigh more than the name. -/
def standard : MatchingConfig Float where
  threshold := 0.5
  nameWeight := 0.2
  signatureWeight := 0.2
  coverageWeight := 0.5
  containerWeight := 0.1
  minAnchorHeight := 2
  propagationSimilarity := 0.5
  maxAstCandidates := 3
  fragmentRatio := 0.8

end MatchingConfig

end Lineage
