import Lineage.Proofs.Tree.Walks

/-!
# Digests identify subtrees

Two trees of any texts have one digest exactly if they are equal, as long as the hash separates them
and no label holds a NUL. Values may hold anything: NULs and hexadecimal digits, which messages are
put together with, and surrogates.

Sound trees are the case in which the texts are made of characters. There equal digests mean that
the trees agree in labels, values and child order (`Tree.Alike`), whatever lines their nodes stand
on and whichever of them occur more than once.
-/

namespace Lineage

open Text (Points)

/-- Two trees agree in labels, values and child order exactly if they are spelled alike. -/
theorem Tree.spelled_eq_iff {t c : Tree} : t.spelled = c.spelled ↔ t.Alike c := by
  rw [Tree.alike_iff]
  exact ⟨Shape.spelled_inj, congrArg Shape.spelled⟩

namespace Spelled
variable {u v : Spelled}

/-- **Digests identify subtrees**, where the hash separates two trees without NULs in their labels:
the digests are equal exactly if the trees are, and then size and height agree, too. So it is with
sound trees of these spellings, which are equal up to lines and node identity. -/
theorem digests_identify_subtrees (hu : u.Labelled) (hv : v.Labelled) (hapart : HashSeparates u v) :
    (u.digest = v.digest ↔ u = v) ∧
    (u.digest = v.digest → u.size = v.size ∧ u.height = v.height) ∧
    ∀ t c : Tree, t.Sound Tree.hash → c.Sound Tree.hash → t.spelled = u → c.spelled = v →
      (t.digest = c.digest ↔ t.Alike c) ∧
      (t.digest = c.digest → t.size = c.size ∧ t.height = c.height) := by
  have hequal : u.digest = v.digest → u = v := eq_of_digest_eq hu hv hapart
  refine ⟨⟨hequal, congrArg digest⟩, ?_, ?_⟩
  · intro h
    rw [hequal h]
    exact ⟨rfl, rfl⟩
  · rintro t c ht hc rfl rfl
    obtain ⟨htd, hts, hth⟩ := ht.summary_spelled
    obtain ⟨hcd, hcs, hch⟩ := hc.summary_spelled
    rw [htd, hcd, hts, hcs, hth, hch, ← Tree.spelled_eq_iff]
    refine ⟨⟨hequal, congrArg digest⟩, fun h => ?_⟩
    rw [hequal h]
    exact ⟨rfl, rfl⟩

/-! ### A value that looks like the end of a message -/

/-- The first surrogate. -/
def surrogate : Text.Point := ⟨0xd800, by decide⟩

/-- A node without children whose value holds a surrogate and a NUL with a digest after it. -/
def pretender : Spelled :=
  .node (Points.ofString "Constant")
    (surrogate :: Points.ofString ("\x00" ++ digest (.node [] [] []))) []

/-- A node whose value holds the surrogate alone, and whose child has the digest. -/
def parent : Spelled :=
  .node (Points.ofString "Constant") [surrogate] [.node [] [] []]

/-- The value makes the messages similar, but not equal. -/
theorem digests_identify_subtrees_pretender :
    pretender.Labelled ∧ parent.Labelled ∧ HashSeparates pretender parent ∧
    pretender.digest ≠ parent.digest := by
  have hlabel : (0 : Text.Point) ∉ Points.ofString "Constant" := by decide
  have hp : pretender.Labelled := .node hlabel nofun
  have hq : parent.Labelled :=
    .node hlabel (List.forall_mem_singleton.mpr (.node List.not_mem_nil nofun))
  have hapart : HashSeparates pretender parent := by decide +kernel
  refine ⟨hp, hq, hapart, fun h => ?_⟩
  have hequal := (digests_identify_subtrees hp hq hapart).1.mp h
  rw [pretender, parent, node.injEq] at hequal
  exact absurd hequal.2.2 (List.cons_ne_nil _ _).symm

end Spelled

end Lineage
