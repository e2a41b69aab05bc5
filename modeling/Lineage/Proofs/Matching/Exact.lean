import Lineage.Matching.Change
import Lineage.Proofs.Score
import Lineage.Proofs.Sequence.Distance
import Lineage.Proofs.Tree.Identical
import Mathlib.Algebra.Order.Field.Rat
import Mathlib.Tactic.FieldSimp
import Mathlib.Tactic.Linarith
import Mathlib.Tactic.Positivity

/-!
# Scores in exact arithmetic

With rational numbers for scores, each of the four similarities lies between zero and one and so
does their weighted mean, so the score is that mean: moving it into the unit interval does nothing.
If all weights are positive the score is full exactly if all four similarities are
(`Lookup.score_eq_one_iff`).

A similarity of two sequences is full exactly if they are equal, and the coverage exactly if every
node of the target's tree has a counterpart.
-/

namespace Lineage

/-! ### Rational scores -/

instance : Score ℚ where
  ofNat n := n
  le a b := a ≤ b
  lt a b := a < b

namespace Score

theorem le_rat {a b : ℚ} : le a b = true ↔ a ≤ b := decide_eq_true_iff

theorem lt_rat {a b : ℚ} : lt a b = true ↔ a < b := decide_eq_true_iff

theorem zero_rat : (zero : ℚ) = 0 := Nat.cast_zero

theorem one_rat : (one : ℚ) = 1 := Nat.cast_one

theorem ratio_rat (part whole : ℕ) : (ratio part whole : ℚ) = part / whole := rfl

instance : Ordered ℚ where
  le_trans hab hbc := le_rat.mpr ((le_rat.mp hab).trans (le_rat.mp hbc))
  number _ := ⟨le_rat.mpr le_rfl, le_rat.mpr le_rfl⟩
  total {a b} _ _ := (le_total a b).imp le_rat.mpr le_rat.mpr
  lt_iff {a b} := by rw [lt_rat, le_rat, Bool.eq_false_iff, ne_eq, le_rat, lt_iff_le_not_ge]
  number_zero := le_rat.mpr le_rfl
  number_one := le_rat.mpr le_rfl

/-- A number of the unit interval stays where it is. -/
theorem clamp_rat {a : ℚ} (h₀ : 0 ≤ a) (h₁ : a ≤ 1) : clamp a = a := by
  have hlarger : larger zero a = a := by
    rw [larger, zero_rat]
    split
    · rfl
    · rename_i hlt
      exact le_antisymm h₀ (not_lt.mp fun h => hlt (lt_rat.mpr h))
  rw [clamp, hlarger, smaller, one_rat]
  split
  · rfl
  · rename_i hlt
    exact le_antisymm (not_lt.mp fun h => hlt (lt_rat.mpr h)) h₁

end Score

/-! ### Similarities -/

open Score

theorem ratio_mem {part whole : ℕ} (h : part ≤ whole) :
    0 ≤ (ratio part whole : ℚ) ∧ (ratio part whole : ℚ) ≤ 1 := by
  rw [ratio_rat]
  exact ⟨by positivity, div_le_one_of_le₀ (Nat.cast_le.mpr h) (Nat.cast_nonneg whole)⟩

theorem ratio_eq_one_iff {part whole : ℕ} (h : 0 < whole) :
    (ratio part whole : ℚ) = 1 ↔ part = whole := by
  rw [ratio_rat, div_eq_one_iff_eq (Nat.cast_ne_zero.mpr h.ne'), Nat.cast_inj]

namespace Sequence
variable {ι : Type} [DecidableEq ι]

theorem similarity_mem (as bs : List ι) :
    0 ≤ (similarity as bs : ℚ) ∧ (similarity as bs : ℚ) ≤ 1 := by
  unfold similarity
  dsimp only
  split
  · rw [one_rat]
    exact ⟨zero_le_one, le_rfl⟩
  · obtain ⟨h₀, h₁⟩ := ratio_mem (editDistance_le as bs)
    rw [one_rat]
    exact ⟨sub_nonneg.mpr h₁, sub_le_self 1 h₀⟩

/-- Only equal sequences have full similarity. -/
theorem similarity_eq_one_iff {as bs : List ι} : (similarity as bs : ℚ) = 1 ↔ as = bs := by
  unfold similarity
  dsimp only
  split
  · rename_i hempty
    have has : as = [] := List.length_eq_zero_iff.mp (by omega)
    have hbs : bs = [] := List.length_eq_zero_iff.mp (by omega)
    simp [one_rat, has, hbs]
  · rename_i hlong
    rw [one_rat, sub_eq_self, ratio_rat, div_eq_zero_iff, Nat.cast_eq_zero, Nat.cast_eq_zero,
      or_iff_left hlong, editDistance_eq_zero]

end Sequence

namespace NodeMapping
variable {m : NodeMapping} {t : Tree} {h : ByteArray → String}

theorem coverage_mem (ht : t.Sound h) :
    0 ≤ (m.coverage t : ℚ) ∧ (m.coverage t : ℚ) ≤ 1 :=
  ratio_mem (Tree.length_preorder ht ▸ List.countP_le_length)

theorem coverage_eq_one_iff (ht : t.Sound h) :
    (m.coverage t : ℚ) = 1 ↔ ∀ n ∈ t.preorder, m.hasSrc n = true := by
  have hpos : 0 < t.size := by
    rw [ht.size_eq]
    omega
  rw [coverage, ratio_eq_one_iff hpos, matchedIn, ← Tree.length_preorder ht,
    List.countP_eq_length]

end NodeMapping

/-! ### The weighted mean -/

namespace MatchingConfig

/-- The settings are as the reader of settings lets them through. -/
structure Valid (c : MatchingConfig ℚ) : Prop where
  threshold : 0 ≤ c.threshold ∧ c.threshold ≤ 1
  nameWeight : 0 ≤ c.nameWeight
  signatureWeight : 0 ≤ c.signatureWeight
  coverageWeight : 0 ≤ c.coverageWeight
  containerWeight : 0 ≤ c.containerWeight
  totalWeight : 0 < c.totalWeight
  minAnchorHeight : 1 ≤ c.minAnchorHeight
  propagationSimilarity : 0 ≤ c.propagationSimilarity ∧ c.propagationSimilarity ≤ 1
  maxAstCandidates : 1 ≤ c.maxAstCandidates
  fragmentRatio : 0 < c.fragmentRatio ∧ c.fragmentRatio ≤ 1

/-- The weights are not negative, and they are not all zero. -/
structure Weighable (c : MatchingConfig ℚ) : Prop where
  nameWeight : 0 ≤ c.nameWeight
  signatureWeight : 0 ≤ c.signatureWeight
  coverageWeight : 0 ≤ c.coverageWeight
  containerWeight : 0 ≤ c.containerWeight
  totalWeight : 0 < c.totalWeight

theorem Valid.weighable {c : MatchingConfig ℚ} (hc : c.Valid) : c.Weighable :=
  ⟨hc.nameWeight, hc.signatureWeight, hc.coverageWeight, hc.containerWeight, hc.totalWeight⟩

/-- The settings that apply when nothing else is given, in exact arithmetic. -/
def standardExact : MatchingConfig ℚ where
  threshold := 1 / 2
  nameWeight := 1 / 5
  signatureWeight := 1 / 5
  coverageWeight := 1 / 2
  containerWeight := 1 / 10
  minAnchorHeight := 2
  propagationSimilarity := 1 / 2
  maxAstCandidates := 3
  fragmentRatio := 4 / 5

theorem valid_standardExact : standardExact.Valid := by
  constructor <;> decide +kernel

variable {c : MatchingConfig ℚ} {name signature coverage container : ℚ}

theorem totalWeight_rat (c : MatchingConfig ℚ) : c.totalWeight
    = c.nameWeight + c.signatureWeight + c.coverageWeight + c.containerWeight := rfl

theorem weightedMean_rat (c : MatchingConfig ℚ) (name signature coverage container : ℚ) :
    c.weightedMean name signature coverage container
      = (c.nameWeight * name + c.signatureWeight * signature + c.coverageWeight * coverage
        + c.containerWeight * container) / c.totalWeight := rfl

/-- The mean of numbers of the unit interval lies in it. -/
theorem Weighable.weightedMean_mem (hc : c.Weighable) (hname : 0 ≤ name ∧ name ≤ 1)
    (hsignature : 0 ≤ signature ∧ signature ≤ 1) (hcoverage : 0 ≤ coverage ∧ coverage ≤ 1)
    (hcontainer : 0 ≤ container ∧ container ≤ 1) :
    0 ≤ c.weightedMean name signature coverage container ∧
      c.weightedMean name signature coverage container ≤ 1 := by
  have hpart : ∀ {w x : ℚ}, 0 ≤ w → 0 ≤ x ∧ x ≤ 1 → 0 ≤ w * x ∧ w * x ≤ w :=
    fun hw hx => ⟨mul_nonneg hw hx.1, mul_le_of_le_one_right hw hx.2⟩
  obtain ⟨hname₀, hname₁⟩ := hpart hc.nameWeight hname
  obtain ⟨hsignature₀, hsignature₁⟩ := hpart hc.signatureWeight hsignature
  obtain ⟨hcoverage₀, hcoverage₁⟩ := hpart hc.coverageWeight hcoverage
  obtain ⟨hcontainer₀, hcontainer₁⟩ := hpart hc.containerWeight hcontainer
  rw [weightedMean_rat, le_div_iff₀ hc.totalWeight, div_le_iff₀ hc.totalWeight, totalWeight_rat]
  constructor <;> linarith

theorem Weighable.weightedMean_one (hc : c.Weighable) : c.weightedMean 1 1 1 1 = 1 := by
  rw [weightedMean_rat, mul_one, mul_one, mul_one, mul_one]
  exact div_self hc.totalWeight.ne'

/-- All four weights are positive. -/
structure Weighted (c : MatchingConfig ℚ) : Prop where
  nameWeight : 0 < c.nameWeight
  signatureWeight : 0 < c.signatureWeight
  coverageWeight : 0 < c.coverageWeight
  containerWeight : 0 < c.containerWeight

theorem weighted_standardExact : standardExact.Weighted := by
  constructor <;> decide +kernel

/-- With positive weights the mean is full only if all four numbers are. -/
theorem Weighable.weightedMean_eq_one_iff (hc : c.Weighable) (hw : c.Weighted)
    (hname : name ≤ 1) (hsignature : signature ≤ 1) (hcoverage : coverage ≤ 1)
    (hcontainer : container ≤ 1) : c.weightedMean name signature coverage container = 1 ↔
      name = 1 ∧ signature = 1 ∧ coverage = 1 ∧ container = 1 := by
  constructor
  · intro hmean
    rw [weightedMean_rat, div_eq_one_iff_eq hc.totalWeight.ne', totalWeight_rat] at hmean
    -- no part of the sum may stay behind its weight
    have hpart : ∀ {w x : ℚ}, 0 < w → x ≤ 1 → w * x ≤ w ∧ (w ≤ w * x → x = 1) :=
      fun hw hx => ⟨mul_le_of_le_one_right hw.le hx,
        fun h => le_antisymm hx ((le_mul_iff_one_le_right hw).mp h)⟩
    obtain ⟨hname, hname₁⟩ := hpart hw.nameWeight hname
    obtain ⟨hsignature, hsignature₁⟩ := hpart hw.signatureWeight hsignature
    obtain ⟨hcoverage, hcoverage₁⟩ := hpart hw.coverageWeight hcoverage
    obtain ⟨hcontainer, hcontainer₁⟩ := hpart hw.containerWeight hcontainer
    exact ⟨hname₁ (by linarith), hsignature₁ (by linarith), hcoverage₁ (by linarith),
      hcontainer₁ (by linarith)⟩
  · rintro ⟨rfl, rfl, rfl, rfl⟩
    exact hc.weightedMean_one

end MatchingConfig

/-! ### Scores of candidates -/

namespace Lookup
variable {q : Lookup} {c : MatchingConfig ℚ} {e : Element} {h : ByteArray → String}

/-- A candidate agrees with the target in all that is scored. -/
structure Full (q : Lookup) (c : MatchingConfig ℚ) (e : Element) : Prop where
  name : q.target.name = e.name
  signature : q.target.signature.tokens = e.signature.tokens
  covered : ∀ n ∈ q.target.tree.preorder, (c.matcher.run q.target.tree e.tree).hasSrc n = true
  container : q.later.containerPath q.target = q.earlier.containerPath e

theorem full_iff (hq : q.target.tree.Sound h) : q.Full c e ↔
    (q.score c e).nameSimilarity = 1 ∧ (q.score c e).signatureSimilarity = 1 ∧
      (q.score c e).coverage = 1 ∧ (q.score c e).containerSimilarity = 1 := by
  have hname : (q.score c e).nameSimilarity = 1 ↔ q.target.name = e.name :=
    Sequence.similarity_eq_one_iff.trans String.toList_inj
  have hsignature : (q.score c e).signatureSimilarity = 1
      ↔ q.target.signature.tokens = e.signature.tokens := Sequence.similarity_eq_one_iff
  have hcontainer : (q.score c e).containerSimilarity = 1
      ↔ q.later.containerPath q.target = q.earlier.containerPath e :=
    Sequence.similarity_eq_one_iff.trans String.toList_inj
  have hcoverage : (q.score c e).coverage = 1 ↔ ∀ n ∈ q.target.tree.preorder,
      (c.matcher.run q.target.tree e.tree).hasSrc n = true := NodeMapping.coverage_eq_one_iff hq
  rw [hname, hsignature, hcoverage, hcontainer]
  exact ⟨fun hf => ⟨hf.name, hf.signature, hf.covered, hf.container⟩,
    fun ⟨hn, hs, hv, hk⟩ => ⟨hn, hs, hv, hk⟩⟩

/-- The four similarities lie in the unit interval. -/
theorem similarities_mem (hq : q.target.tree.Sound h) (c : MatchingConfig ℚ) (e : Element) :
    (0 ≤ (q.score c e).nameSimilarity ∧ (q.score c e).nameSimilarity ≤ 1) ∧
      (0 ≤ (q.score c e).signatureSimilarity ∧ (q.score c e).signatureSimilarity ≤ 1) ∧
      (0 ≤ (q.score c e).coverage ∧ (q.score c e).coverage ≤ 1) ∧
      (0 ≤ (q.score c e).containerSimilarity ∧ (q.score c e).containerSimilarity ≤ 1) :=
  ⟨Sequence.similarity_mem _ _, Sequence.similarity_mem _ _, NodeMapping.coverage_mem hq,
    Sequence.similarity_mem _ _⟩

/-- The score is the weighted mean of the similarities. -/
theorem score_eq_weightedMean (hc : c.Weighable) (hq : q.target.tree.Sound h) (e : Element) :
    (q.score c e).score
      = c.weightedMean (q.score c e).nameSimilarity (q.score c e).signatureSimilarity
        (q.score c e).coverage (q.score c e).containerSimilarity := by
  obtain ⟨hname, hsignature, hcoverage, hcontainer⟩ := similarities_mem hq c e
  obtain ⟨h₀, h₁⟩ := hc.weightedMean_mem hname hsignature hcoverage hcontainer
  exact clamp_rat h₀ h₁

theorem score_le_one (q : Lookup) (c : MatchingConfig ℚ) (e : Element) :
    (q.score c e).score ≤ 1 :=
  le_rat.mp (one_rat ▸ clamp_le_one _)

/-- What agrees in all that is scored has the full score. -/
theorem Full.score_eq_one (hfull : q.Full c e) (hc : c.Valid) (hq : q.target.tree.Sound h) :
    (q.score c e).score = 1 := by
  obtain ⟨hname, hsignature, hcoverage, hcontainer⟩ := (full_iff hq).mp hfull
  rw [score_eq_weightedMean hc.weighable hq, hname, hsignature, hcoverage, hcontainer,
    hc.weighable.weightedMean_one]

/-- **With positive weights nothing else has the full score.** -/
theorem score_eq_one_iff_of_weighable (hc : c.Weighable) (hw : c.Weighted)
    (hq : q.target.tree.Sound h) : (q.score c e).score = 1 ↔ q.Full c e := by
  obtain ⟨hname, hsignature, hcoverage, hcontainer⟩ := similarities_mem hq c e
  rw [score_eq_weightedMean hc hq, full_iff hq, hc.weightedMean_eq_one_iff hw hname.2
    hsignature.2 hcoverage.2 hcontainer.2]

theorem score_eq_one_iff (hc : c.Valid) (hw : c.Weighted) (hq : q.target.tree.Sound h) :
    (q.score c e).score = 1 ↔ q.Full c e :=
  score_eq_one_iff_of_weighable hc.weighable hw hq

/-- A copy of the target agrees in all that is scored, if no node occurs twice. -/
theorem full_of_alike (hname : q.target.name = e.name)
    (hsignature : q.target.signature = e.signature)
    (hcontainer : q.later.containerPath q.target = q.earlier.containerPath e)
    (halike : q.target.tree.Alike e.tree) (hq : q.target.tree.Sound h) (he : e.tree.Sound h)
    (hqd : q.target.tree.Distinct) (hed : e.tree.Distinct) : q.Full c e where
  name := hname
  signature := congrArg Signature.tokens hsignature
  covered n hn := by
    rw [Matcher.run_of_alike c.matcher halike hq he hqd hed]
    exact Matcher.hasSrc_addAll_zip halike.preorder.length_eq n hn
  container := hcontainer

end Lookup

end Lineage
