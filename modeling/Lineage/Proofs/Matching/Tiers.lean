import Lineage.Proofs.Element.Naming
import Lineage.Proofs.Matching.Chosen
import Lineage.Proofs.Matching.Label

/-!
# What a tier says about the label

The tiers compare kinds, names and signatures, and so does the label. They do not ask the same
questions: the first two tiers look at qualified names, the label at the declarations around the two
versions and at simple names. In models that are named after their containers the qualified name
settles both (`Lookup.inPlace_of_qualifiedName`), so what a tier has compared is not found to differ
by the label (`Lookup.tier_bounds_label`).
-/

namespace Lineage.Lookup
variable {α : Type} [Score α] {q : Lookup} {c : Element} {matcher : Option (Matcher α)}
  {limit : Nat}

theorem inTier_tier (tier : Tier) : (q.inTier matcher limit tier).tier = tier := by
  cases tier with
  | exact | name | container | containment => rfl
  | wholeFile =>
    unfold inTier
    cases matcher with
    | none => rfl
    | some s =>
      dsimp only
      split <;> rfl

/-- What is listed is what its tier finds. -/
theorem eq_inTier_of_mem {found : Found} (h : found ∈ q.candidateTiers matcher limit) :
    found = q.inTier matcher limit found.tier := by
  obtain ⟨hmem, -⟩ := List.mem_filter.mp h
  obtain ⟨tier, -, rfl⟩ := List.mem_map.mp hmem
  rw [inTier_tier]

/-! ### What the tiers compare -/

theorem of_mem_exact (h : c ∈ (q.inTier matcher limit .exact).elements) :
    q.target.qualifiedName = c.qualifiedName ∧ q.target.signature = c.signature := by
  obtain ⟨-, hsame⟩ := List.mem_filter.mp h
  rw [Bool.and_eq_true, beq_iff_eq, beq_iff_eq] at hsame
  exact ⟨hsame.1.symm, hsame.2.symm⟩

theorem of_mem_name (h : c ∈ (q.inTier matcher limit .name).elements) :
    q.target.qualifiedName = c.qualifiedName := by
  obtain ⟨-, hsame⟩ := List.mem_filter.mp h
  exact (beq_iff_eq.mp hsame).symm

theorem of_mem_container (h : c ∈ (q.inTier matcher limit .container).elements) :
    q.target.name = c.name := by
  obtain ⟨-, hsame⟩ := List.mem_filter.mp h
  exact (beq_iff_eq.mp (Bool.and_eq_true_iff.mp hsame).1).symm

/-! ### Versions of one qualified name -/

section
variable (hlater : q.later.Scoped) (hearlier : q.earlier.Scoped)
  (htarget : q.target ∈ q.later.elements) (hc : c ∈ q.earlier.elements)
  (hkind : q.target.kind = c.kind) (hqualified : q.target.qualifiedName = c.qualifiedName)
include hlater hearlier htarget hc hkind hqualified

/-- The qualified name tells which declarations stand around an element. -/
theorem inPlace_of_qualifiedName : q.InPlace c := by
  have hcontainer := hlater.container_eq hearlier.toQualified htarget hc hkind hqualified
  constructor
  · intro hlocal
    have hlocal' : c.isLocal = true := (isLocal_eq hkind).symm.trans hlocal
    rw [hlater.enclosingMethod? htarget hlocal, hearlier.enclosingMethod? hc hlocal']
    exact hcontainer
  · rw [Model.containerName_eq, Model.containerName_eq, hcontainer]

/-- Versions of one qualified name differ in the signature or in the body, if they differ. -/
theorem labelChange_of_qualifiedName (hpath : q.later.path = q.earlier.path) (r : α) :
    q.labelChange r c =
      if q.target.signature ≠ c.signature then .signatureChange
      else if q.target.tree.digest = c.tree.digest ∧ q.target.bodyTokens = c.bodyTokens ∧
          q.later.memberNames q.target = q.earlier.memberNames c then .unchanged
      else .bodyChange := by
  have hplace := inPlace_of_qualifiedName hlater hearlier htarget hc hkind hqualified
  have hname := hlater.name_eq hearlier.toQualified htarget hc hkind hqualified
  exact labelChange_in_place hplace hqualified hname hpath r

end

/-- **A tier bounds the label.** Candidates of the first tier differ in the body at most, those of
the second in the body or the signature, and those of the third are never renamed. -/
theorem tier_bounds_label (hpath : q.later.path = q.earlier.path) (hlater : q.later.Scoped)
    (hearlier : q.earlier.Scoped) (htarget : q.target ∈ q.later.elements) {found : Found}
    (hfound : found ∈ q.candidateTiers matcher limit) (hc : c ∈ found.elements) (r : α) :
    (found.tier = .exact → q.labelChange r c = .unchanged ∨ q.labelChange r c = .bodyChange) ∧
    (found.tier = .name → q.labelChange r c = .unchanged ∨ q.labelChange r c = .bodyChange ∨
      q.labelChange r c = .signatureChange) ∧
    (found.tier = .container → q.labelChange r c ≠ .rename) := by
  rw [eq_inTier_of_mem hfound] at hc
  obtain ⟨hmem, hkind⟩ := mem_sameKind (inTier_subset hc)
  have hmem := Array.mem_toList_iff.mp hmem
  refine ⟨fun htier => ?_, fun htier => ?_, fun htier => ?_⟩
  · rw [htier] at hc
    obtain ⟨hqualified, hsignature⟩ := of_mem_exact hc
    rw [labelChange_of_qualifiedName hlater hearlier htarget hmem hkind.symm hqualified hpath,
      if_neg (not_not.mpr hsignature)]
    split
    · exact .inl rfl
    · exact .inr rfl
  · rw [htier] at hc
    have hqualified := of_mem_name hc
    rw [labelChange_of_qualifiedName hlater hearlier htarget hmem hkind.symm hqualified hpath]
    split
    · exact .inr (.inr rfl)
    split
    · exact .inl rfl
    · exact .inr (.inl rfl)
  · rw [htier] at hc
    exact labelChange_ne_rename (of_mem_container hc) r

/-- An `if` in a method `f`, which holds one statement. -/
def blockInMethod (statement : String) : Element where
  index := 1
  kind := .blockStmt
  name := "if"
  qualifiedName := "f/if"
  container := some 0
  signature := {}
  lines := ⟨2, 3⟩
  bodyTokens := [statement]
  tree := .node 1 "If" "" ⟨2, 3⟩ []
  blockType := some "if"

/-- A file of a method `f` with an `if` in it. -/
def fileOfBlock (statement : String) : Model where
  path := "x.py"
  elements := #[topMethod 0 "f" [statement], blockInMethod statement]
  tree := .node 2 "Module" "" ⟨1, 3⟩ []

/-- The statement below an `if` is replaced. -/
def replaced : Lookup := ⟨blockInMethod "Pass", fileOfBlock "Pass", fileOfBlock "Return"⟩

theorem scoped_fileOfBlock (statement : String) : (fileOfBlock statement).Scoped := by
  have hcases : ∀ e ∈ (fileOfBlock statement).elements,
      e = topMethod 0 "f" [statement] ∨ e = blockInMethod statement := by
    intro e he
    simpa [fileOfBlock] using he
  refine ⟨⟨?_, ?_, ?_⟩, ?_⟩
  · intro e he
    rcases hcases e he with rfl | rfl
    · simp [topMethod]
    · simp [blockInMethod]
  · intro e he htop
    rcases hcases e he with rfl | rfl
    · rfl
    · cases htop
  · intro e he i hi
    rcases hcases e he with rfl | rfl
    · cases hi
    · cases hi
      exact ⟨topMethod 0 "f" [statement], rfl, rfl⟩
  · intro e he hlocal c hc
    rcases hcases e he with rfl | rfl
    · cases hlocal
    · cases hc
      rfl

theorem tier_bounds_label_replaced :
    replaced.later.path = replaced.earlier.path ∧ replaced.later.Scoped ∧
    replaced.earlier.Scoped ∧ replaced.target ∈ replaced.later.elements ∧
    (∃ found ∈ replaced.candidateTiers (none : Option (Matcher Float)) 3,
      found.tier = .exact ∧ blockInMethod "Return" ∈ found.elements) ∧
    (replaced.labelChange MatchingConfig.standard.fragmentRatio (blockInMethod "Return")
        = .unchanged ∨
      replaced.labelChange MatchingConfig.standard.fragmentRatio (blockInMethod "Return")
        = .bodyChange) := by
  have htarget : replaced.target ∈ replaced.later.elements :=
    List.mem_toArray.mpr (List.mem_cons_of_mem _ List.mem_cons_self)
  have hkind : blockInMethod "Return" ∈ replaced.sameKind :=
    List.mem_filter.mpr ⟨List.mem_cons_of_mem _ List.mem_cons_self, by decide⟩
  have hc : blockInMethod "Return"
      ∈ (replaced.inTier (none : Option (Matcher Float)) 3 .exact).elements :=
    List.mem_filter.mpr ⟨hkind, by decide⟩
  have hfound : replaced.inTier (none : Option (Matcher Float)) 3 .exact
      ∈ replaced.candidateTiers (none : Option (Matcher Float)) 3 :=
    List.mem_filter.mpr ⟨List.mem_map_of_mem List.mem_cons_self, by decide⟩
  have hbounds := tier_bounds_label rfl (scoped_fileOfBlock "Pass") (scoped_fileOfBlock "Return")
    htarget hfound hc MatchingConfig.standard.fragmentRatio
  exact ⟨rfl, scoped_fileOfBlock _, scoped_fileOfBlock _, htarget, ⟨_, hfound, rfl, hc⟩,
    hbounds.1 rfl⟩

end Lineage.Lookup
