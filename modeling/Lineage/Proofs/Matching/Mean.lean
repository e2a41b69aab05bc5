import Lineage.Proofs.Matching.Unedited
import Mathlib.Data.Option.NAry

/-! # The score is a weighted mean

In exact arithmetic the score of a candidate is the mean of four numbers between zero and one, with
weights of which only the ratios count (`MatchingConfig.weightedMean_scaled`), so it lies between
zero and one without being moved there.

Exact arithmetic says nothing of divisions by zero, which have a value there.  So the rules are run
once more with numbers that a division by zero takes away (`Checked`), and come to the same result
(`Lookup.score_checked`).  The shares that the matcher compares are divided, too: it looks for a
counterpart of a node with children, so there is at least one node to share
(`Matcher.run_checked`).
-/
namespace Lineage

/-- A rational number, or none where a division by zero was met. -/
def Checked : Type := Option ℚ

namespace Checked

/-- A number that was computed without a division by zero. -/
def ok (a : ℚ) : Checked := some a

instance : Score Checked where
  add := Option.map₂ (· + ·)
  sub := Option.map₂ (· - ·)
  mul := Option.map₂ (· * ·)
  div a b := Option.bind a fun x => Option.bind b fun y => if y = 0 then none else some (x / y)
  ofNat n := some n
  le a b := (Option.map₂ (fun x y : ℚ => decide (x ≤ y)) a b).getD false
  lt a b := (Option.map₂ (fun x y : ℚ => decide (x < y)) a b).getD false

variable {a b : ℚ} {part whole : ℕ}

theorem div_ok (hb : b ≠ 0) : ok a / ok b = ok (a / b) := if_neg hb

theorem ratio_ok (h : whole ≠ 0) :
    (Score.ratio part whole : Checked) = ok (Score.ratio part whole) :=
  div_ok (Nat.cast_ne_zero.mpr h)

theorem larger_ok (a b : ℚ) : Score.larger (ok a) (ok b) = ok (Score.larger a b) :=
  (apply_ite ok ..).symm

theorem smaller_ok (a b : ℚ) : Score.smaller (ok a) (ok b) = ok (Score.smaller a b) :=
  (apply_ite ok ..).symm

theorem clamp_ok (a : ℚ) : Score.clamp (ok a) = ok (Score.clamp a) :=
  (congrArg (Score.smaller (ok Score.one)) (larger_ok ..)).trans (smaller_ok ..)

end Checked

open Checked (ok)

/-! ### Without a division by zero -/

theorem Sequence.similarity_checked {ι : Type} [DecidableEq ι] (as bs : List ι) :
    (similarity as bs : Checked) = ok (similarity as bs) := by
  unfold similarity
  dsimp only
  split
  · rfl
  · rename_i hlong
    rw [Checked.ratio_ok hlong]
    rfl

theorem NodeMapping.coverage_checked {h : ByteArray → String} {t : Tree} (ht : t.Sound h)
    (m : NodeMapping) : (m.coverage t : Checked) = ok (m.coverage t) := by
  have hpos : t.size ≠ 0 := by
    rw [ht.size_eq]
    omega
  exact Checked.ratio_ok hpos

namespace Matcher
variable {h : ByteArray → String} {src a b : Tree}

/-- The settings of the matcher with another kind of numbers. -/
def map {α β : Type} (f : α → β) (s : Matcher α) : Matcher β :=
  ⟨s.minAnchorHeight, f s.propagationSimilarity⟩

/-- One step of the search for the container that shares most. -/
def fuller {α : Type} [Score α] (src : Tree) (best : Option Tree × α) (c : Tree × Nat) :
    Option Tree × α :=
  if Score.lt best.2 (dice c.2 src c.1) then (some c.1, dice c.2 src c.1) else best

/-- A node with a child has a descendant to share. -/
theorem dice_checked (hsrc : 1 < src.size) (shared : Nat) (c : Tree) :
    (dice shared src c : Checked) = ok (dice shared src c) :=
  Checked.ratio_ok (by omega)

theorem fuller_checked (hsrc : 1 < src.size) (best : Option Tree × ℚ) (c : Tree × Nat) :
    fuller src (best.map id ok) c = (fuller src best c).map id ok := by
  unfold fuller
  rw [dice_checked hsrc]
  by_cases hlt : Score.lt best.2 (dice c.2 src c.1) = true
  · rw [if_pos hlt]
    exact if_pos hlt
  · rw [if_neg hlt]
    exact if_neg hlt

theorem bestContainer?_checked (s : Matcher ℚ) (parents : Std.TreeMap Nat Tree) (fuel : Nat)
    (hsrc : 1 < src.size) (m : NodeMapping) :
    (s.map ok).bestContainer? parents fuel src m = s.bestContainer? parents fuel src m := by
  have hfold : ∀ l : List (Tree × Nat), l.foldl (fuller src) (none, Score.zero)
      = (l.foldl (fuller src) (none, (Score.zero : ℚ))).map id ok :=
    fun l => (List.foldl_hom (Prod.map id ok) (fuller_checked hsrc) :
      l.foldl (fuller src) (Prod.map id ok (none, Score.zero)) = _)
  exact congrArg (fun best : Option Tree × Checked =>
    if Score.le (ok s.propagationSimilarity) best.2 then best.1 else none) (hfold _)

theorem propagateOne_checked (s : Matcher ℚ) (parents : Std.TreeMap Nat Tree) (fuel : Nat)
    (hsrc : src.Sound h) (m : NodeMapping) :
    (s.map ok).propagateOne parents fuel m src = s.propagateOne parents fuel m src := by
  unfold propagateOne
  split
  · rfl
  · rename_i hopen
    obtain ⟨c, hc⟩ : ∃ c, c ∈ src.children :=
      List.exists_mem_of_ne_nil _ fun hnil => hopen (by simp [hnil])
    have hsize : 1 < src.size := by
      have hlt := hsrc.size_lt hc
      have hpos := (hsrc.of_mem_children hc).size_eq
      omega
    rw [bestContainer?_checked s parents fuel hsize]

/-- **The matcher divides by no zero.** -/
theorem run_checked (s : Matcher ℚ) (ha : a.Sound h) (b : Tree) :
    (s.map ok).run a b = s.run a b := by
  have hfold : ∀ m : NodeMapping,
      a.postorder.foldl ((s.map ok).propagateOne (parentsIn b) b.height) m
        = a.postorder.foldl (s.propagateOne (parentsIn b) b.height) m :=
    fun m => List.foldl_ext _ _ m fun m n hn =>
      propagateOne_checked s _ _ (ha.of_mem_preorder (Tree.mem_postorder.mp hn)) m
  unfold run propagate
  rw [hfold]
  rfl

end Matcher

namespace MatchingConfig

/-- The settings with another kind of numbers. -/
def map {α β : Type} (f : α → β) (c : MatchingConfig α) : MatchingConfig β where
  threshold := f c.threshold
  nameWeight := f c.nameWeight
  signatureWeight := f c.signatureWeight
  coverageWeight := f c.coverageWeight
  containerWeight := f c.containerWeight
  minAnchorHeight := c.minAnchorHeight
  propagationSimilarity := f c.propagationSimilarity
  maxAstCandidates := c.maxAstCandidates
  fragmentRatio := f c.fragmentRatio

/-- The settings with all four weights multiplied by one factor. -/
def scaled (c : MatchingConfig ℚ) (k : ℚ) : MatchingConfig ℚ :=
  { c with
    nameWeight := k * c.nameWeight
    signatureWeight := k * c.signatureWeight
    coverageWeight := k * c.coverageWeight
    containerWeight := k * c.containerWeight }

variable {c : MatchingConfig ℚ}

theorem weightedMean_checked (hc : c.Weighable) (name signature coverage container : ℚ) :
    (c.map ok).weightedMean (ok name) (ok signature) (ok coverage) (ok container)
      = ok (c.weightedMean name signature coverage container) :=
  Checked.div_ok hc.totalWeight.ne'

/-- Only the ratios of the weights count. -/
theorem weightedMean_scaled {k : ℚ} (hk : 0 < k) (name signature coverage container : ℚ) :
    (c.scaled k).weightedMean name signature coverage container
      = c.weightedMean name signature coverage container := by
  rw [weightedMean_rat, weightedMean_rat, totalWeight_rat, totalWeight_rat]
  simp only [scaled, mul_assoc, ← mul_add]
  exact mul_div_mul_left _ _ hk.ne'

end MatchingConfig

/-- The parts of a score as another kind of numbers. -/
def Scored.map {α β : Type} (f : α → β) (s : Scored α) : Scored β where
  element := s.element
  score := f s.score
  nameSimilarity := f s.nameSimilarity
  signatureSimilarity := f s.signatureSimilarity
  coverage := f s.coverage
  containerSimilarity := f s.containerSimilarity
  rangeDelta := s.rangeDelta

namespace Lookup
variable {q : Lookup} {c : MatchingConfig ℚ} {h : ByteArray → String}

/-- **Scoring divides by no zero.** -/
theorem score_checked (hc : c.Weighable) (hq : q.target.tree.Sound h) (e : Element) :
    q.score (c.map ok) e = (q.score c e).map ok := by
  have hmatcher : (c.map ok).matcher = c.matcher.map ok := rfl
  unfold score
  rw [hmatcher, Matcher.run_checked c.matcher hq]
  simp only [Sequence.similarity_checked, NodeMapping.coverage_checked hq,
    MatchingConfig.weightedMean_checked hc, Checked.clamp_ok]
  rfl

theorem score_scaled {k : ℚ} (hk : 0 < k) (e : Element) : q.score (c.scaled k) e = q.score c e := by
  unfold score
  simp only [MatchingConfig.weightedMean_scaled hk]
  rfl

/-- The mean of the similarities of a candidate, which has not been moved into the unit interval. -/
def mean (q : Lookup) (c : MatchingConfig ℚ) (e : Element) : ℚ :=
  c.weightedMean (q.score c e).nameSimilarity (q.score c e).signatureSimilarity
    (q.score c e).coverage (q.score c e).containerSimilarity

/-- **The score is a proper mean.**  Computing it divides by no zero.  The four similarities and
their weighted mean lie in the unit interval, and the score is that mean.  A common factor of the
weights changes nothing, and if all weights are positive the score is one exactly for what agrees in
names, signatures and containers and has a counterpart for every node. -/
theorem score_isMean (hc : c.Weighable) (hq : q.target.tree.Sound h) (e : Element) :
    q.score (c.map ok) e = (q.score c e).map ok ∧
    (0 ≤ (q.score c e).nameSimilarity ∧ (q.score c e).nameSimilarity ≤ 1) ∧
    (0 ≤ (q.score c e).signatureSimilarity ∧ (q.score c e).signatureSimilarity ≤ 1) ∧
    (0 ≤ (q.score c e).coverage ∧ (q.score c e).coverage ≤ 1) ∧
    (0 ≤ (q.score c e).containerSimilarity ∧ (q.score c e).containerSimilarity ≤ 1) ∧
    (0 ≤ q.mean c e ∧ q.mean c e ≤ 1) ∧
    (q.score c e).score = q.mean c e ∧
    (∀ k : ℚ, 0 < k → q.score (c.scaled k) e = q.score c e) ∧
    (c.Weighted → ((q.score c e).score = 1 ↔
      q.target.name = e.name ∧ q.target.signature.tokens = e.signature.tokens ∧
        q.later.containerPath q.target = q.earlier.containerPath e ∧
        ∀ n ∈ q.target.tree.preorder, (c.matcher.run q.target.tree e.tree).hasSrc n = true)) := by
  obtain ⟨hname, hsignature, hcoverage, hcontainer⟩ := similarities_mem hq c e
  refine ⟨score_checked hc hq e, hname, hsignature, hcoverage, hcontainer, ?_,
    score_eq_weightedMean hc hq e, fun k hk => score_scaled hk e, fun hw => ?_⟩
  · exact hc.weightedMean_mem hname hsignature hcoverage hcontainer
  · rw [score_eq_one_iff_of_weighable hc hw hq]
    exact ⟨fun hfull => ⟨hfull.name, hfull.signature, hfull.container, hfull.covered⟩,
      fun ⟨hname, hsignature, hcontainer, hcovered⟩ => ⟨hname, hsignature, hcovered, hcontainer⟩⟩

/-- Everything but the name agrees, and the name weighs one in five. -/
theorem score_isMean_renamed : MatchingConfig.standardExact.Weighable ∧
    MatchingConfig.standardExact.Weighted ∧ twoNames.target.tree.Sound Tree.hash ∧
    (twoNames.score .standardExact (methodAt 0 "g" 1 none)).score = 4 / 5 ∧
    twoNames.score (MatchingConfig.standardExact.scaled 10) (methodAt 0 "g" 1 none)
      = twoNames.score .standardExact (methodAt 0 "g" 1 none) ∧
    (twoNames.score (MatchingConfig.standardExact.map ok) (methodAt 0 "g" 1 none)).score
      = ok (4 / 5) ∧
    ((twoNames.score .standardExact (methodAt 0 "g" 1 none)).score ≠ 1) := by
  have hscore : (twoNames.score .standardExact (methodAt 0 "g" 1 none)).score = 4 / 5 := by
    decide +kernel
  have hc := MatchingConfig.valid_standardExact.weighable
  have hw := MatchingConfig.weighted_standardExact
  have hq : twoNames.target.tree.Sound Tree.hash := sound_methodAt ..
  obtain ⟨hchecked, -, -, -, -, -, -, hscaled, hone⟩ :=
    score_isMean hc hq (methodAt 0 "g" 1 none)
  refine ⟨hc, hw, hq, hscore, hscaled 10 (by decide), ?_, fun h => ?_⟩
  · rw [hchecked, ← hscore]
    rfl
  · exact absurd ((hone hw).mp h).1 (by decide)

end Lookup
end Lineage
