import Lineage.Input.Environment
import Lineage.Matching.Config

/-!
The settings of matching as they are given.
-/

namespace Lineage.MatchingConfig

open Input Reader

/-- Refuses weights of which none is positive. -/
def weightless? (c : MatchingConfig Float) : Option String :=
  if c.totalWeight ≤ Float.ofNat 0 then some "At least one scoring weight must be positive" else none

/-- Reads the settings of matching; what is not given keeps its standard value. -/
def reader : Reader (MatchingConfig Float) :=
  let s := standard
  satisfying weightless? fun j =>
    mk <$> fieldOr "threshold" share s.threshold j
      <*> fieldOr "name_weight" weight s.nameWeight j
      <*> fieldOr "signature_weight" weight s.signatureWeight j
      <*> fieldOr "coverage_weight" weight s.coverageWeight j
      <*> fieldOr "container_weight" weight s.containerWeight j
      <*> fieldOr "min_anchor_height" positive s.minAnchorHeight j
      <*> fieldOr "propagation_similarity" share s.propagationSimilarity j
      <*> fieldOr "max_ast_candidates" positive s.maxAstCandidates j
      <*> fieldOr "fragment_ratio" positiveShare s.fragmentRatio j

/-- The settings that may be taken from the environment. -/
def settings : List Setting :=
  ["threshold", "name_weight", "signature_weight", "coverage_weight", "container_weight",
    "min_anchor_height", "propagation_similarity", "max_ast_candidates", "fragment_ratio"].map (⟨·, false⟩)

/-- The settings of matching, from given values and the environment. -/
def read (env : Environment) (given : List (String × Json)) :
    Except SettingsFault (MatchingConfig Float) :=
  env.read "CODETRAIL_MATCH_" settings reader given

end Lineage.MatchingConfig
