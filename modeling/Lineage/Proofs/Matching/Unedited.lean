import Lineage.Proofs.Element.Naming
import Lineage.Proofs.Matching.Exact
import Lineage.Proofs.Matching.Label
import Lineage.Proofs.Matching.Threshold
import Lineage.Proofs.Matching.Unchanged

/-! # An element that was not edited

An element that is the same in both versions, lines apart, is the only candidate of the first tier
if no other element could be taken for it, and it is labelled unchanged with the full score.  The
tree of the element is matched completely, however high a subtree has to be to be anchored
(`Matcher.run_of_alike`), and the other similarities compare equal texts.

That holds of models whose elements are named after their containers (`unedited_found_of_named`).
In others two things are not settled by what the locator compares.  The simple name need not be part
of the qualified name: if it differs, the label is that of a rename
(`unedited_found_iff_same_name`).  And the block type counts for blocks only, so an element of
another kind that differs in it alone is a second candidate (`not_unedited_found`).
-/
namespace Lineage

/-- A list in which one place alone has a property. -/
theorem filter_eq_singleton {β : Type} {p : β → Bool} {l : List β} {i : Nat} {b : β}
    (hat : l[i]? = some b) (hb : p b = true) (honly : ∀ j a, l[j]? = some a → p a = true → j = i) :
    l.filter p = [b] := by
  induction l generalizing i with
  | nil => cases hat
  | cons a l ih =>
    cases i with
    | zero =>
      cases hat
      rw [List.filter_cons_of_pos hb, List.filter_eq_nil_iff.mpr]
      intro a ha hpa
      obtain ⟨j, hj⟩ := List.getElem?_of_mem ha
      exact absurd (honly (j + 1) a hj hpa) (Nat.succ_ne_zero j)
    | succ i =>
      rw [List.filter_cons_of_neg fun hpa => absurd (honly 0 a rfl hpa).symm (Nat.succ_ne_zero i)]
      exact ih hat fun j a hj hpa => Nat.succ_injective (honly (j + 1) a hj hpa)

namespace Lookup
variable {q : Lookup} {c : Element}

/-- The target and an earlier element agree in all that is compared but the simple name. -/
structure Unedited (q : Lookup) (c : Element) : Prop where
  kind : q.target.kind = c.kind
  blockType : q.target.blockType = c.blockType
  qualifiedName : q.target.qualifiedName = c.qualifiedName
  signature : q.target.signature = c.signature
  containerName : q.later.containerName q.target = q.earlier.containerName c
  enclosingMethod : (q.later.enclosingMethod? q.target).map (·.qualifiedName)
    = (q.earlier.enclosingMethod? c).map (·.qualifiedName)
  bodyTokens : q.target.bodyTokens = c.bodyTokens
  memberNames : q.later.memberNames q.target = q.earlier.memberNames c
  tree : q.target.tree.Alike c.tree

/-- What the first tier compares; of the block type it takes notice for blocks only. -/
structure Exact (q : Lookup) (e : Element) : Prop where
  kind : e.kind = q.target.kind
  blockType : q.target.kind = .blockStmt → e.blockType = q.target.blockType
  qualifiedName : e.qualifiedName = q.target.qualifiedName
  signature : e.signature = q.target.signature

theorem Unedited.exact (h : q.Unedited c) : q.Exact c :=
  ⟨h.kind.symm, fun _ => h.blockType.symm, h.qualifiedName.symm, h.signature.symm⟩

theorem exact_iff {e : Element} : q.Exact e ↔ e.kind = q.target.kind ∧
    (q.target.kind = .blockStmt → e.blockType = q.target.blockType) ∧
    e.qualifiedName = q.target.qualifiedName ∧ e.signature = q.target.signature :=
  ⟨fun h => ⟨h.kind, h.blockType, h.qualifiedName, h.signature⟩,
    fun ⟨hkind, hblock, hname, hsignature⟩ => ⟨hkind, hblock, hname, hsignature⟩⟩

instance (q : Lookup) (e : Element) : Decidable (q.Exact e) := decidable_of_iff _ exact_iff.symm

theorem inTier_exact {α : Type} [Score α] (matcher : Option (Matcher α)) (limit : Nat) :
    q.inTier matcher limit .exact
      = ⟨.exact, q.earlier.elements.toList.filter fun e => q.Exact e, none⟩ := by
  rw [inTier, sameKind, List.filter_filter]
  refine congrArg (Found.mk .exact · none) (List.filter_congr fun e _ => ?_)
  rw [Bool.eq_iff_iff, decide_eq_true_iff, exact_iff]
  by_cases hblock : q.target.kind = .blockStmt <;> simp [hblock] <;> tauto

theorem candidatesFor_of_exact {α : Type} [Score α] (matcher : Option (Matcher α)) (limit : Nat)
    {i : Nat} (hat : q.earlier.elements[i]? = some c) (hc : q.Exact c)
    (honly : ∀ j e, q.earlier.elements[j]? = some e → q.Exact e → j = i) :
    q.candidatesFor matcher limit = some ⟨.exact, [c], none⟩ := by
  have hfilter : (q.earlier.elements.toList.filter fun e => q.Exact e) = [c] :=
    filter_eq_singleton (by rwa [Array.getElem?_toList]) (decide_eq_true hc) fun j e hj he =>
      honly j e (by rwa [Array.getElem?_toList] at hj) (of_decide_eq_true he)
  rw [candidatesFor, Tier.all, firstTier?, inTier_exact, hfilter]
  rfl

variable {cfg : MatchingConfig ℚ}

/-- A single candidate with the full score is chosen. -/
theorem classify_singleton (hcfg : cfg.Valid) (hscore : (q.score cfg c).score = 1) :
    (q.classify cfg [c]).chosen = some (q.score cfg c) := by
  rw [classify_eq, List.map_singleton, Scored.select?, List.filter_cons_of_pos]
  · rfl
  · exact Score.le_rat.mpr (hscore ▸ hcfg.threshold.2)

theorem Unedited.inPlace (h : q.Unedited c) : q.InPlace c :=
  ⟨fun _ => h.enclosingMethod, h.containerName⟩

/-- No label but that of no change is left, if the simple names agree. -/
theorem Unedited.labelChange_eq_iff (h : q.Unedited c) (hpath : q.later.path = q.earlier.path)
    (ht : q.target.tree.Sound Tree.hash) (hc : c.tree.Sound Tree.hash) (r : ℚ) :
    q.labelChange r c = .unchanged ↔ q.target.name = c.name := by
  rw [labelChange_eq_unchanged_iff]
  exact ⟨fun hunchanged => hunchanged.2.2.2.1, fun hname =>
    ⟨extraction?_eq_none h.inPlace h.qualifiedName r, ownersDiffer_eq_false h.inPlace, hpath, hname, h.signature,
      (h.tree.summary_eq ht hc).1, h.bodyTokens, h.memberNames⟩⟩

/-- An element that was not edited, and has the target's simple name, is chosen with the full score
and labelled unchanged. -/
theorem Unedited.classify (h : q.Unedited c) (hname : q.target.name = c.name) (hcfg : cfg.Valid)
    (hpath : q.later.path = q.earlier.path)
    (ht : q.target.tree.Sound Tree.hash) (hc : c.tree.Sound Tree.hash)
    (htd : q.target.tree.Distinct) (hcd : c.tree.Distinct) :
    (∃ s, (q.classify cfg [c]).chosen = some s ∧ s.element = c ∧ s.score = 1) ∧
      (q.classify cfg [c]).kind = .unchanged := by
  have hcontainer : q.later.containerPath q.target = q.earlier.containerPath c := by
    rw [Model.containerPath, Model.containerPath, hpath, h.containerName]
  have hscore : (q.score cfg c).score = 1 :=
    (full_of_alike hname h.signature hcontainer h.tree ht hc htd hcd).score_eq_one hcfg ht
  have hchosen := classify_singleton hcfg hscore
  refine ⟨⟨_, hchosen, rfl, hscore⟩, ?_⟩
  rw [(classify_chosen hchosen).2.2]
  exact (h.labelChange_eq_iff hpath ht hc cfg.fragmentRatio).mpr hname

/-- In models whose elements are named after their containers, an element that was not edited and
shares its kind, block type, qualified name and signature with no other is found again: the simple
names agree, and only blocks have block types. -/
theorem unedited_found_of_named (hlater : q.later.Named) (hearlier : q.earlier.Named)
    (hcfg : cfg.Valid) (hpath : q.later.path = q.earlier.path)
    (htarget : q.target ∈ q.later.elements) {i : Nat} (hat : q.earlier.elements[i]? = some c)
    (hsame : q.Unedited c)
    (honly : ∀ j e, q.earlier.elements[j]? = some e → e.kind = q.target.kind →
      e.blockType = q.target.blockType → e.qualifiedName = q.target.qualifiedName →
      e.signature = q.target.signature → j = i)
    (ht : q.target.tree.Sound Tree.hash) (hc : c.tree.Sound Tree.hash)
    (htd : q.target.tree.Distinct) (hcd : c.tree.Distinct) :
    (∀ (matcher : Option (Matcher ℚ)) (limit : Nat),
      q.candidatesFor matcher limit = some ⟨.exact, [c], none⟩) ∧
    (∃ s, (q.classify cfg [c]).chosen = some s ∧ s.element = c ∧ s.score = 1) ∧
      (q.classify cfg [c]).kind = .unchanged := by
  refine ⟨fun matcher limit => candidatesFor_of_exact matcher limit hat hsame.exact ?_, ?_⟩
  · intro j e hj he
    have hblock : e.blockType = q.target.blockType :=
      hearlier.blockType_eq hlater (Array.mem_of_getElem? hj) htarget he.kind fun hkind =>
        he.blockType (he.kind ▸ hkind)
    exact honly j e hj he.kind hblock he.qualifiedName he.signature
  · have hname : q.target.name = c.name :=
      hlater.name_eq hearlier.toQualified htarget (Array.mem_of_getElem? hat) hsame.kind hsame.qualifiedName
    exact hsame.classify hname hcfg hpath ht hc htd hcd

/-- **An element that was not edited is found again.**  If it is the only one that the first tier
can take for the target, it is the only candidate, and it is chosen with the full score and labelled
unchanged exactly if it has the target's simple name, too. -/
theorem unedited_found_iff_same_name (hcfg : cfg.Valid) (hpath : q.later.path = q.earlier.path)
    {i : Nat} (hat : q.earlier.elements[i]? = some c) (hsame : q.Unedited c)
    (honly : ∀ j e, q.earlier.elements[j]? = some e → q.Exact e → j = i)
    (ht : q.target.tree.Sound Tree.hash) (hc : c.tree.Sound Tree.hash)
    (htd : q.target.tree.Distinct) (hcd : c.tree.Distinct) :
    (∀ (matcher : Option (Matcher ℚ)) (limit : Nat),
      q.candidatesFor matcher limit = some ⟨.exact, [c], none⟩) ∧
    ((∃ s, (q.classify cfg [c]).chosen = some s ∧ s.element = c ∧ s.score = 1) ∧
      (q.classify cfg [c]).kind = .unchanged ↔ q.target.name = c.name) := by
  refine ⟨fun matcher limit => candidatesFor_of_exact matcher limit hat hsame.exact honly,
    ?_, fun hname => hsame.classify hname hcfg hpath ht hc htd hcd⟩
  rintro ⟨⟨s, hs, rfl, -⟩, hkind⟩
  rw [(classify_chosen hs).2.2] at hkind
  exact (hsame.labelChange_eq_iff hpath ht hc cfg.fragmentRatio).mp hkind

/-! ### Models of one or two methods -/

/-- A method of the given simple name in the lines from `line` on, all of it one node. -/
def methodAt (index : Nat) (name : String) (line : Int) (blockType : Option String) : Element where
  index := index
  kind := .methodDecl
  name := name
  qualifiedName := "f"
  container := none
  signature := {}
  lines := ⟨line, line + 1⟩
  bodyTokens := []
  tree := .node index "FunctionDef" "" ⟨line, line + 1⟩ []
  blockType := blockType

/-- A file of some methods. -/
def fileOf (methods : List Element) : Model where
  path := "x.py"
  elements := methods.toArray
  tree := .node methods.length "Module" "" ⟨1, 1⟩ (methods.map (·.tree))

theorem sound_methodAt (index : Nat) (name : String) (line : Int) (blockType : Option String) :
    (methodAt index name line blockType).tree.Sound Tree.hash :=
  Tree.sound_node nofun

/-- A method and its earlier version two lines further up. -/
def movedDown : Lookup where
  target := methodAt 0 "f" 3 none
  later := fileOf [methodAt 0 "f" 3 none]
  earlier := fileOf [methodAt 0 "f" 1 none]

theorem unedited_found_iff_same_name_movedDown :
    (∀ (matcher : Option (Matcher ℚ)) (limit : Nat),
      movedDown.candidatesFor matcher limit = some ⟨.exact, [methodAt 0 "f" 1 none], none⟩) ∧
    (∃ s, (movedDown.classify .standardExact [methodAt 0 "f" 1 none]).chosen = some s ∧
      s.element = methodAt 0 "f" 1 none ∧ s.score = 1) ∧
    (movedDown.classify MatchingConfig.standardExact [methodAt 0 "f" 1 none]).kind
      = .unchanged := by
  have hsame : movedDown.Unedited (methodAt 0 "f" 1 none) :=
    ⟨rfl, rfl, rfl, rfl, rfl, rfl, rfl, rfl, .node rfl nofun⟩
  have honly : ∀ j e, movedDown.earlier.elements[j]? = some e → movedDown.Exact e → j = 0 := by
    intro j e hj _
    have hlt := (Array.getElem?_eq_some_iff.mp hj).1
    exact Nat.lt_one_iff.mp hlt
  obtain ⟨hcandidates, hiff⟩ := unedited_found_iff_same_name MatchingConfig.valid_standardExact rfl
    rfl hsame honly (sound_methodAt ..) (sound_methodAt ..) (by decide) (by decide)
  exact ⟨hcandidates, hiff.mpr rfl⟩

/-- A method `f` whose earlier version has another simple name, next to one of the old simple name
that is marked with a block type. -/
def twoNames : Lookup where
  target := methodAt 0 "f" 1 none
  later := fileOf [methodAt 0 "f" 1 none]
  earlier := fileOf [methodAt 0 "g" 1 none, methodAt 1 "f" 3 (some "if")]

/-- The first method of the earlier file is the target unedited, and no other element has its kind,
block type, qualified name and signature.  Still it is not the only candidate, its score is not
full, and the label is that of a rename. -/
theorem not_unedited_found :
    MatchingConfig.standardExact.Valid ∧ twoNames.later.path = twoNames.earlier.path ∧
    twoNames.target ∈ twoNames.later.elements ∧
    twoNames.earlier.elements[0]? = some (methodAt 0 "g" 1 none) ∧
    twoNames.Unedited (methodAt 0 "g" 1 none) ∧
    (∀ j e, twoNames.earlier.elements[j]? = some e → e.kind = twoNames.target.kind →
      e.blockType = twoNames.target.blockType → e.qualifiedName = twoNames.target.qualifiedName →
      e.signature = twoNames.target.signature → j = 0) ∧
    (∀ e ∈ twoNames.earlier.elements, e.tree.Sound Tree.hash ∧ e.tree.Distinct) ∧
    twoNames.target.tree.Sound Tree.hash ∧ twoNames.target.tree.Distinct ∧
    (∀ (matcher : Option (Matcher ℚ)) (limit : Nat), twoNames.candidatesFor matcher limit
      = some ⟨.exact, [methodAt 0 "g" 1 none, methodAt 1 "f" 3 (some "if")], none⟩) ∧
    (twoNames.score MatchingConfig.standardExact (methodAt 0 "g" 1 none)).score ≠ 1 ∧
    twoNames.labelChange MatchingConfig.standardExact.fragmentRatio (methodAt 0 "g" 1 none)
      = .rename := by
  have honly : ∀ j e, twoNames.earlier.elements[j]? = some e → e.kind = twoNames.target.kind →
      e.blockType = twoNames.target.blockType → e.qualifiedName = twoNames.target.qualifiedName →
      e.signature = twoNames.target.signature → j = 0 := by
    intro j e hj _ hblock _ _
    match j with
    | 0 => rfl
    | 1 =>
      cases hj
      cases hblock
    | j + 2 => cases hj
  have hmade : ∀ e ∈ twoNames.earlier.elements, e.tree.Sound Tree.hash ∧ e.tree.Distinct := by
    intro e he
    rcases List.mem_pair.mp (Array.mem_toList_iff.mpr he) with rfl | rfl
    · exact ⟨sound_methodAt .., by decide⟩
    · exact ⟨sound_methodAt .., by decide⟩
  have hboth : (twoNames.earlier.elements.toList.filter fun e => twoNames.Exact e)
      = [methodAt 0 "g" 1 none, methodAt 1 "f" 3 (some "if")] := by
    refine List.filter_eq_self.mpr fun e he => decide_eq_true ?_
    rcases List.mem_pair.mp he with rfl | rfl
    · exact ⟨rfl, nofun, rfl, rfl⟩
    · exact ⟨rfl, nofun, rfl, rfl⟩
  refine ⟨MatchingConfig.valid_standardExact, rfl, List.mem_toArray.mpr List.mem_cons_self, rfl,
    ⟨rfl, rfl, rfl, rfl, rfl, rfl, rfl, rfl, .node rfl nofun⟩, honly, hmade, sound_methodAt ..,
    by decide, fun matcher limit => ?_, by decide +kernel, by decide +kernel⟩
  rw [candidatesFor, Tier.all, firstTier?, inTier_exact, hboth]
  rfl

end Lookup
end Lineage
