import Lineage.Matching.Change

/-!
# The label of a change

The label is decided step by step, from extraction and inlining down to the members. Each step
compares the two versions in a way that does not tell which of them is the later one, except for
extraction and inlining, which are each other's mirror image: the declaration that is new, seen from
the other end, is the one that is gone. So the label of the change back is the label of the change
with these two exchanged (`Lookup.labelChange_reversed`).

Versions of one qualified name that stand in declarations of one name were neither extracted nor
inlined nor moved (`Lookup.extraction?_eq_none`, `Lookup.ownersDiffer_eq_false`). What is left is
decided by name, signature and body (`Lookup.labelChange_in_place`).
-/

namespace Lineage

/-- The label of a change as it is seen from the other end. -/
def ChangeKind.reversed : ChangeKind → ChangeKind
  | extract => inlined
  | inlined => extract
  | kind => kind

namespace Lookup
variable {α : Type} [Score α] {q : Lookup} {c : Element} {r : α}

theorem extraction?_cases (q : Lookup) (r : α) (c : Element) : q.extraction? r c = none ∨
    q.extraction? r c = some .extract ∨ q.extraction? r c = some .inlined := by
  unfold extraction?
  dsimp only
  repeat' split
  all_goals simp

/-! ### Versions that stay where they are -/

/-- The declarations around the two versions have one name, or there are none. The methods count
for blocks and variables only. -/
structure InPlace (q : Lookup) (c : Element) : Prop where
  method : q.target.isLocal = true → (q.later.enclosingMethod? q.target).map (·.qualifiedName)
    = (q.earlier.enclosingMethod? c).map (·.qualifiedName)
  container : q.later.containerName q.target = q.earlier.containerName c

/-- Nothing was extracted or inlined: both versions stand in methods of one name, or have one name
themselves. -/
theorem extraction?_eq_none (hplace : q.InPlace c)
    (hname : q.target.qualifiedName = c.qualifiedName) (r : α) : q.extraction? r c = none := by
  unfold extraction?
  split
  · next hlocal =>
    have hmethods := hplace.method hlocal
    split
    · rename_i owner source howner hsource
      rw [howner, hsource] at hmethods
      exact if_pos (beq_iff_eq.mpr (Option.some.inj hmethods))
    · rfl
  · exact if_pos (beq_iff_eq.mpr hname)

theorem ownersDiffer_eq_false (hplace : q.InPlace c) : q.ownersDiffer c = false := by
  unfold ownersDiffer
  split
  · next hlocal => rw [hplace.method hlocal, bne_self_eq_false]
  · rw [hplace.container, bne_self_eq_false]

/-- The label of a version that stayed where it was and kept its name. -/
theorem labelChange_in_place (hplace : q.InPlace c)
    (hqualified : q.target.qualifiedName = c.qualifiedName) (hname : q.target.name = c.name)
    (hpath : q.later.path = q.earlier.path) (r : α) : q.labelChange r c =
      if q.target.signature ≠ c.signature then .signatureChange
      else if q.target.tree.digest = c.tree.digest ∧ q.target.bodyTokens = c.bodyTokens ∧
          q.later.memberNames q.target = q.earlier.memberNames c then .unchanged
      else .bodyChange := by
  have hstay : (q.ownersDiffer c || q.later.path != q.earlier.path) = false := by
    rw [ownersDiffer_eq_false hplace, hpath, bne_self_eq_false, Bool.or_self]
  rw [labelChange, extraction?_eq_none hplace hqualified, hstay, hname]
  by_cases hsignature : q.target.signature = c.signature
  · by_cases hdigest : q.target.tree.digest = c.tree.digest
    · by_cases htokens : q.target.bodyTokens = c.bodyTokens
      · by_cases hmembers : q.later.memberNames q.target = q.earlier.memberNames c
        · simp [hsignature, hdigest, htokens, hmembers]
        · simp [hsignature, hdigest, htokens, hmembers]
      · simp [hsignature, hdigest, htokens]
    · simp [hsignature, hdigest]
  · simp [hsignature]

/-- Only versions of different names are labelled a rename. -/
theorem labelChange_ne_rename (hname : q.target.name = c.name) (r : α) :
    q.labelChange r c ≠ .rename := by
  have hsame : (q.target.name != c.name) = false := by rw [hname, bne_self_eq_false]
  unfold labelChange
  rcases q.extraction?_cases r c with hnone | hextract | hinlined
  · rw [hnone, hsame]
    simp only [Bool.false_eq_true, if_false]
    repeat' split
    all_goals nofun
  · rw [hextract]
    nofun
  · rw [hinlined]
    nofun

/-! ### The change seen from the other end -/

/-- The two models exchanged: the candidate is followed to the target. -/
def reversed (q : Lookup) (c : Element) : Lookup := ⟨c, q.earlier, q.later⟩

theorem isLocal_eq (hkind : q.target.kind = c.kind) : q.target.isLocal = c.isLocal := by
  rw [Element.isLocal, Element.isLocal, hkind]

/-- Between the methods around two blocks or variables, the one that is new is the one that is gone
when it is seen from the other end. -/
theorem extraction?_reversed_of_local (hkind : q.target.kind = c.kind)
    (hlocal : c.isLocal = true) :
    (q.reversed c).extraction? r q.target = (q.extraction? r c).map .reversed := by
  have htarget : q.target.isLocal = true := (isLocal_eq hkind).trans hlocal
  unfold extraction? reversed
  dsimp only
  rw [if_pos hlocal, if_pos htarget]
  cases howner : q.later.enclosingMethod? q.target with
  | none => cases q.earlier.enclosingMethod? c <;> rfl
  | some owner =>
    cases hsource : q.earlier.enclosingMethod? c with
    | none => rfl
    | some source =>
      dsimp only
      by_cases hname : owner.qualifiedName = source.qualifiedName
      · rw [hname, beq_self_eq_true]
        rfl
      · have hthere : (owner.qualifiedName == source.qualifiedName) = false :=
          beq_eq_false_iff_ne.mpr hname
        have hback : (source.qualifiedName == owner.qualifiedName) = false :=
          beq_eq_false_iff_ne.mpr (Ne.symm hname)
        rw [hthere, hback]
        cases q.earlier.hasDeclaration .methodDecl owner.qualifiedName <;>
          cases q.later.hasDeclaration .methodDecl source.qualifiedName <;> rfl

/-- The share of tokens is asked of the version whose declaration stands alone on its side, from
either end. -/
theorem extraction?_reversed_of_not_local (hkind : q.target.kind = c.kind)
    (hlocal : c.isLocal = false) :
    (q.reversed c).extraction? r q.target = (q.extraction? r c).map .reversed := by
  have htarget : q.target.isLocal = false := (isLocal_eq hkind).trans hlocal
  unfold extraction? reversed
  dsimp only
  rw [hlocal, htarget, if_neg Bool.false_ne_true, if_neg Bool.false_ne_true]
  by_cases hname : q.target.qualifiedName = c.qualifiedName
  · rw [hname, beq_self_eq_true]
    rfl
  · have hthere : (q.target.qualifiedName == c.qualifiedName) = false :=
      beq_eq_false_iff_ne.mpr hname
    have hback : (c.qualifiedName == q.target.qualifiedName) = false :=
      beq_eq_false_iff_ne.mpr (Ne.symm hname)
    rw [hthere, hback]
    -- one of the two declarations is missing on the other side, or both are there, or none
    cases q.earlier.hasDeclaration q.target.kind q.target.qualifiedName with
    | false =>
      cases q.later.hasDeclaration c.kind c.qualifiedName with
      | false => rfl
      | true =>
        simp only [Bool.not_false, Bool.not_true, Bool.and_true, Bool.and_false,
          Bool.false_eq_true, if_true, if_false]
        split <;> rfl
    | true =>
      cases q.later.hasDeclaration c.kind c.qualifiedName with
      | false =>
        simp only [Bool.not_false, Bool.not_true, Bool.and_true, Bool.and_false,
          Bool.false_eq_true, if_true, if_false]
        split <;> rfl
      | true => rfl

theorem extraction?_reversed (hkind : q.target.kind = c.kind) (r : α) :
    (q.reversed c).extraction? r q.target = (q.extraction? r c).map .reversed := by
  cases hlocal : c.isLocal with
  | true => exact extraction?_reversed_of_local hkind hlocal
  | false => exact extraction?_reversed_of_not_local hkind hlocal

theorem ownersDiffer_reversed (hkind : q.target.kind = c.kind) :
    (q.reversed c).ownersDiffer q.target = q.ownersDiffer c := by
  unfold ownersDiffer reversed
  dsimp only
  rw [isLocal_eq hkind]
  split
  · exact bne_comm
  · exact bne_comm

/-- **The label of the change back.** With the two models and the two versions exchanged, extraction
and inlining are exchanged, and every other label stays. -/
theorem labelChange_reversed (hkind : q.target.kind = c.kind) (r : α) :
    (q.reversed c).labelChange r q.target = (q.labelChange r c).reversed := by
  unfold labelChange
  rw [extraction?_reversed hkind]
  cases q.extraction? r c with
  | some kind => rfl
  | none =>
    -- the tests that are left compare the two versions without telling them apart
    have hpath : (q.earlier.path != q.later.path) = (q.later.path != q.earlier.path) := bne_comm
    have hname : (c.name != q.target.name) = (q.target.name != c.name) := bne_comm
    have hsignature : (c.signature != q.target.signature) = (q.target.signature != c.signature) :=
      bne_comm
    have hdigest : (c.tree.digest != q.target.tree.digest)
        = (q.target.tree.digest != c.tree.digest) := bne_comm
    have htokens : (c.bodyTokens != q.target.bodyTokens)
        = (q.target.bodyTokens != c.bodyTokens) := bne_comm
    have hmembers : (q.earlier.memberNames c != q.later.memberNames q.target)
        = (q.later.memberNames q.target != q.earlier.memberNames c) := bne_comm
    rw [ownersDiffer_reversed hkind]
    simp only [Option.map_none, reversed, hpath, hname, hsignature, hdigest, htokens, hmembers,
      ← hkind]
    repeat' split
    all_goals rfl

/-- A method at the top of a file, with its tokens. -/
def topMethod (index : Nat) (name : String) (bodyTokens : List String) : Element where
  index := index
  kind := .methodDecl
  name := name
  qualifiedName := name
  container := none
  signature := {}
  lines := ⟨index, index⟩
  bodyTokens := bodyTokens
  tree := .node index "FunctionDef" "" ⟨index, index⟩ []
  blockType := none

/-- A method that was cut out of another one, which stays. -/
def cutOut : Lookup where
  target := topMethod 1 "g" ["Return"]
  later :=
    { path := "x.py"
      elements := #[topMethod 0 "f" ["Pass"], topMethod 1 "g" ["Return"]]
      tree := .node 3 "Module" "" ⟨1, 2⟩ [] }
  earlier :=
    { path := "x.py"
      elements := #[topMethod 0 "f" ["Pass", "Return"]]
      tree := .node 3 "Module" "" ⟨1, 1⟩ [] }

theorem labelChange_reversed_cutOut :
    cutOut.target.kind = (topMethod 0 "f" ["Pass", "Return"]).kind ∧
    cutOut.labelChange MatchingConfig.standard.fragmentRatio (topMethod 0 "f" ["Pass", "Return"])
      = .extract ∧
    (cutOut.reversed (topMethod 0 "f" ["Pass", "Return"])).labelChange
      MatchingConfig.standard.fragmentRatio cutOut.target = .inlined := by
  have hextract : cutOut.labelChange MatchingConfig.standard.fragmentRatio
      (topMethod 0 "f" ["Pass", "Return"]) = .extract := by
    decide +kernel
  refine ⟨rfl, hextract, ?_⟩
  rw [labelChange_reversed (c := topMethod 0 "f" ["Pass", "Return"]) rfl, hextract]
  rfl

end Lookup

end Lineage
