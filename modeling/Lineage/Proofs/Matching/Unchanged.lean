import Lineage.Proofs.Matching.Label
import Lineage.Proofs.Source.Standing

/-!
# What a label of no change says

Two versions labelled unchanged have one digest, so their statements have asts of one shape: the
same classes of nodes, names in use and texts of constants, in the same order. The shape leaves out
which places of the fields are taken and the texts that are not kept as values. The names,
signatures and members that the label also compares make up for few of these, so an edit of the
others is hidden.

## Main statements

- `unchanged_same_ast_iff`: **the statements of unchanged versions are the same exactly if they
  agree in what the shape of an ast leaves out**, where the hash separates the two nodes.
- `unchanged_bounds_swapped`: they need not agree; `v = a[1:]` becomes `v = a[:1]` unnoticed.
-/

namespace Lineage

open Source Lineage.Tree

variable {α : Type} [Score α]

theorem Lookup.extraction?_ne_unchanged (q : Lookup) (r : α) (c : Element) :
    q.extraction? r c ≠ some .unchanged := by
  rcases q.extraction?_cases r c with hkind | hkind | hkind <;> rw [hkind] <;> nofun

/-- When two versions are unchanged. -/
theorem Lookup.labelChange_eq_unchanged_iff {q : Lookup} {r : α} {c : Element} :
    q.labelChange r c = .unchanged ↔ q.extraction? r c = none ∧ q.ownersDiffer c = false ∧
      q.later.path = q.earlier.path ∧ q.target.name = c.name ∧
      q.target.signature = c.signature ∧ q.target.tree.digest = c.tree.digest ∧
      q.target.bodyTokens = c.bodyTokens ∧
      q.later.memberNames q.target = q.earlier.memberNames c := by
  constructor
  · intro h
    unfold Lookup.labelChange at h
    cases hextraction : q.extraction? r c with
    | some kind =>
      rw [hextraction] at h
      exact absurd (hextraction.trans (congrArg some h)) (q.extraction?_ne_unchanged r c)
    | none =>
      rw [hextraction] at h
      dsimp only at h
      split at h
      · cases h
      · next howners =>
        split at h
        · split at h <;> cases h
        · next hname =>
          split at h
          · cases h
          · next hsignature =>
            split at h
            · cases h
            · next htree =>
              split at h
              · cases h
              · next hmembers =>
                simp only [Bool.or_eq_true, bne_iff_ne, ne_eq, not_or, not_not,
                  Bool.not_eq_true] at howners hname hsignature htree hmembers
                exact ⟨rfl, howners.1, howners.2, hname, hsignature, htree.1, htree.2, hmembers⟩
  · rintro ⟨hextraction, howners, hpath, hname, hsignature, hdigest, htokens, hmembers⟩
    simp [Lookup.labelChange, hextraction, howners, hpath, hname, hsignature, hdigest, htokens,
      hmembers]

/-- The nodes of unchanged versions have one shape, where the hash separates them. -/
theorem shape_eq_of_unchanged {q : Lookup} {r : α} {c : Element} {path path' : String}
    {body body' : List Stmt} (hlater : modelOf path body = .ok q.later)
    (hearlier : modelOf path' body' = .ok q.earlier)
    (hseparates : HashSeparates q.target.tree c.tree)
    (hunchanged : q.labelChange r c = .unchanged) {s s' : Stmt}
    (hs : MadeFrom body q.later q.target s) (hs' : MadeFrom body' q.earlier c s') :
    s.ast.shape = s'.ast.shape := by
  obtain ⟨-, -, -, -, -, hdigest, -⟩ := Lookup.labelChange_eq_unchanged_iff.mp hunchanged
  obtain ⟨hsound, hshape⟩ := hs.grown hlater
  obtain ⟨hsound', hshape'⟩ := hs'.grown hearlier
  rw [← hshape, ← hshape']
  refine shape_eq_of_digest_eq hsound hsound' ?_ ?_ hseparates hdigest
  · rw [hshape]
    exact s.ast.labelled_shape
  · rw [hshape']
    exact s'.ast.labelled_shape

/-- **What a label of no change hides.**  Elements of parsed files come from statements. If
one is labelled unchanged against another, the asts of their statements have one shape, and they
are the same exactly if they agree in what the shape leaves out. -/
theorem unchanged_same_ast_iff {named? : List Char → Option Nat} {bytes bytes' : List UInt8}
    {path path' : String} {later earlier : Model} {body body' : List Stmt}
    (hlater : Model.ofBytes named? bytes path = .ok later)
    (hearlier : Model.ofBytes named? bytes' path' = .ok earlier)
    (hbody : statements? named? bytes = some body)
    (hbody' : statements? named? bytes' = some body')
    {t c : Element} (ht : t ∈ later.elements) (hc : c ∈ earlier.elements)
    (hseparates : HashSeparates t.tree c.tree) {r : α}
    (hunchanged : Lookup.labelChange ⟨t, later, earlier⟩ r c = .unchanged) :
    (∃ s, MadeFrom body later t s) ∧ (∃ s, MadeFrom body' earlier c s) ∧
      ∀ s s', MadeFrom body later t s → MadeFrom body' earlier c s' →
        s.ast.shape = s'.ast.shape ∧ (s.ast = s'.ast ↔ s.ast.unseen = s'.ast.unseen) := by
  -- a file has one list of statements, the one that its model was made of
  obtain ⟨b, hb, hmodel⟩ := ofBytes_ok hlater
  obtain rfl : b = body := Option.some.inj (hb.symm.trans hbody)
  obtain ⟨b', hb', hmodel'⟩ := ofBytes_ok hearlier
  obtain rfl : b' = body' := Option.some.inj (hb'.symm.trans hbody')
  refine ⟨exists_statement hmodel ht, exists_statement hmodel' hc, ?_⟩
  intro s s' hs hs'
  have hshape := shape_eq_of_unchanged (q := ⟨t, later, earlier⟩) hmodel hmodel' hseparates
    hunchanged hs hs'
  refine ⟨hshape, ?_⟩
  rw [Ast.eq_iff]
  exact ⟨fun h => h.2, fun h => ⟨hshape, h⟩⟩

/-! ### Two versions of a file -/

/-- Facts about the first elements of two versions of a file, and about the asts of all statements
of the later and of the earlier one. -/
def versionsTell (later earlier : String) (facts : Lookup → Element → List Ast → List Ast → Bool) :
    Bool :=
  match statements? (fun _ => none) later.toUTF8.toList,
      statements? (fun _ => none) earlier.toUTF8.toList,
      Model.ofBytes (fun _ => none) later.toUTF8.toList "x.py",
      Model.ofBytes (fun _ => none) earlier.toUTF8.toList "x.py" with
  | some body, some body', .ok m, .ok m' =>
    match m.elements[0]?, m'.elements[0]? with
    | some t, some c => facts ⟨t, m, m'⟩ c ((standing body m.tree.children).map (·.1.ast))
        ((standing body' m'.tree.children).map (·.1.ast))
    | _, _ => false
  | _, _, _, _ => false

theorem exists_of_versionsTell {later earlier : String}
    {facts : Lookup → Element → List Ast → List Ast → Bool}
    (h : versionsTell later earlier facts = true) : ∃ m m' body body' t c,
      Model.ofBytes (fun _ => none) later.toUTF8.toList "x.py" = .ok m ∧
      Model.ofBytes (fun _ => none) earlier.toUTF8.toList "x.py" = .ok m' ∧
      statements? (fun _ => none) later.toUTF8.toList = some body ∧
      statements? (fun _ => none) earlier.toUTF8.toList = some body' ∧
      t ∈ m.elements ∧ c ∈ m'.elements ∧
      facts ⟨t, m, m'⟩ c ((standing body m.tree.children).map (·.1.ast))
        ((standing body' m'.tree.children).map (·.1.ast)) = true := by
  unfold versionsTell at h
  split at h
  · next body body' m m' hbody hbody' hm hm' =>
    split at h
    · next t c ht hc =>
      exact ⟨m, m', body, body', t, c, hm, hm', hbody, hbody', Array.mem_of_getElem? ht,
        Array.mem_of_getElem? hc, h⟩
    · cases h
  · cases h

theorem unchanged_same_ast_iff_movedDown : ∃ m m' body body' t c,
    Model.ofBytes (fun _ => none) "\nv = a[1:]\n".toUTF8.toList "x.py" = .ok m ∧
    Model.ofBytes (fun _ => none) "v = a[1:]\n".toUTF8.toList "x.py" = .ok m' ∧
    statements? (fun _ => none) "\nv = a[1:]\n".toUTF8.toList = some body ∧
    statements? (fun _ => none) "v = a[1:]\n".toUTF8.toList = some body' ∧
    t ∈ m.elements ∧ c ∈ m'.elements ∧ HashSeparates t.tree c.tree ∧
    Lookup.labelChange ⟨t, m, m'⟩ MatchingConfig.standard.fragmentRatio c = .unchanged ∧
    (∃ s, MadeFrom body m t s) ∧ (∃ s, MadeFrom body' m' c s) ∧
    ∀ s s', MadeFrom body m t s → MadeFrom body' m' c s' →
      s.ast.shape = s'.ast.shape ∧ (s.ast = s'.ast ↔ s.ast.unseen = s'.ast.unseen) := by
  have htell : versionsTell "\nv = a[1:]\n" "v = a[1:]\n" (fun q c _ _ =>
      HashSeparates q.target.tree c.tree ∧
        q.labelChange MatchingConfig.standard.fragmentRatio c = .unchanged) = true := by
    decide +kernel
  obtain ⟨m, m', body, body', t, c, hm, hm', hbody, hbody', ht, hc, hfacts⟩ :=
    exists_of_versionsTell htell
  obtain ⟨hseparates, hunchanged⟩ := of_decide_eq_true hfacts
  exact ⟨m, m', body, body', t, c, hm, hm', hbody, hbody', ht, hc, hseparates, hunchanged,
    unchanged_same_ast_iff hm hm' hbody hbody' ht hc hseparates hunchanged⟩

/-- The end of a slice becomes its start, and the label says that nothing has changed. -/
theorem unchanged_bounds_swapped : ¬ ∀ m m' body body' t c s s',
    Model.ofBytes (fun _ => none) "v = a[1:]\n".toUTF8.toList "x.py" = .ok m →
    Model.ofBytes (fun _ => none) "v = a[:1]\n".toUTF8.toList "x.py" = .ok m' →
    statements? (fun _ => none) "v = a[1:]\n".toUTF8.toList = some body →
    statements? (fun _ => none) "v = a[:1]\n".toUTF8.toList = some body' →
    t ∈ m.elements → c ∈ m'.elements → t.kind = c.kind →
    Lookup.labelChange ⟨t, m, m'⟩ MatchingConfig.standard.fragmentRatio c = .unchanged →
    MadeFrom body m t s → MadeFrom body' m' c s' → s.ast = s'.ast := by
  intro hclaim
  have htell : versionsTell "v = a[1:]\n" "v = a[:1]\n" (fun q c asts asts' =>
      q.target.kind = c.kind ∧
        q.labelChange MatchingConfig.standard.fragmentRatio c = .unchanged ∧
        ∀ a ∈ asts, ∀ a' ∈ asts', a.unseen ≠ a'.unseen) = true := by
    decide +kernel
  obtain ⟨m, m', body, body', t, c, hm, hm', hbody, hbody', ht, hc, hfacts⟩ :=
    exists_of_versionsTell htell
  obtain ⟨hkind, hunchanged, hunseen⟩ := of_decide_eq_true hfacts
  obtain ⟨b, hb, hmodel⟩ := ofBytes_ok hm
  obtain rfl : b = body := Option.some.inj (hb.symm.trans hbody)
  obtain ⟨b', hb', hmodel'⟩ := ofBytes_ok hm'
  obtain rfl : b' = body' := Option.some.inj (hb'.symm.trans hbody')
  obtain ⟨s, hs⟩ := exists_statement hmodel ht
  obtain ⟨s', hs'⟩ := exists_statement hmodel' hc
  have hsame := hclaim m m' b b' t c s s' hm hm' hbody hbody' ht hc hkind hunchanged hs hs'
  exact hunseen _ (List.mem_map_of_mem hs) _ (List.mem_map_of_mem hs') (congrArg Ast.unseen hsame)

end Lineage
