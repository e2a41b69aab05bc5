import Lineage.Proofs.Matching.Unedited
import Mathlib.Data.List.MinMax

/-! # Whether an exact copy wins

A copy of the target has the full score, but the score does not single it out: the coverage counts
the nodes of the target that have a counterpart, so a candidate that holds more than the target can
have the full score, too.  Among those with the full score the nearest one is chosen, by the
distance in lines and then by the place in the model.

So the choice has the full score whenever there is a copy, and it is a copy exactly if one of the
copies stands before all other candidates with the full score (`copy_wins_iff`).  A copy further off
than a longer version of the target loses (`not_copy_wins`).
-/
namespace Lineage

/-! ### The order of preference -/

namespace Scored

/-- The order of preference as a key, the smallest first. -/
def key (s : Scored ℚ) : ℚ ×ₗ ℕ ×ₗ ℕ := toLex (-s.score, toLex (s.rangeDelta, s.element.index))

theorem before_iff (a b : Scored ℚ) : a.before b = true ↔ a.key < b.key := by
  rw [key, key, Prod.Lex.toLex_lt_toLex, Prod.Lex.toLex_lt_toLex, neg_lt_neg_iff, neg_inj]
  unfold before
  simp only [Score.lt_rat]
  rcases lt_trichotomy b.score a.score with hscore | hscore | hscore
  · simp [hscore]
  · rcases lt_trichotomy a.rangeDelta b.rangeDelta with hdelta | hdelta | hdelta
    · simp [hscore, hdelta]
    · simp [hscore, hdelta]
    · simp [hscore, hdelta, hdelta.not_gt, hdelta.ne']
  · simp [hscore, hscore.not_gt, hscore.ne]

/-- The choice is the first candidate with the least key. -/
theorem best?_eq_argmin (l : List (Scored ℚ)) : best? l = l.argmin key := by
  rw [best?_eq, List.argmin]
  congr 1
  funext best t
  cases best with
  | none => rfl
  | some b =>
    show some (if t.before b = true then t else b) = if t.key < b.key then some t else some b
    simp only [before_iff]
    split <;> rfl

theorem select?_le {threshold : ℚ} {l : List (Scored ℚ)} {s t : Scored ℚ}
    (h : select? threshold l = some s) (ht : t ∈ l) (hreach : threshold ≤ t.score) :
    s.key ≤ t.key := by
  rw [select?, best?_eq_argmin] at h
  exact List.le_of_mem_argmin (List.mem_filter.mpr ⟨ht, Score.le_rat.mpr hreach⟩) h

end Scored

namespace Lookup
variable {q : Lookup} {cfg : MatchingConfig ℚ} {candidates : List Element} {c : Element}

/-- How near an element stands: the distance in lines, then the place in the model. -/
def place (q : Lookup) (e : Element) : ℕ ×ₗ ℕ := toLex (q.target.lines.delta e.lines, e.index)

/-- If a candidate has the full score, the nearest one that has it is chosen. -/
theorem classify_full (hcfg : cfg.Valid) (hc : c ∈ candidates)
    (hscore : (q.score cfg c).score = 1) :
    ∃ e ∈ candidates, (q.classify cfg candidates).chosen = some (q.score cfg e) ∧
      (q.score cfg e).score = 1 ∧
      ∀ e' ∈ candidates, (q.score cfg e').score = 1 → q.place e ≤ q.place e' := by
  have hmem : ∀ {e}, e ∈ candidates → q.score cfg e ∈ candidates.map (q.score cfg) :=
    fun he => List.mem_map_of_mem he
  have hreach : ∀ {e}, (q.score cfg e).score = 1 → cfg.threshold ≤ (q.score cfg e).score :=
    fun he => he ▸ hcfg.threshold.2
  rw [classify_eq]
  cases hs : Scored.select? cfg.threshold (candidates.map (q.score cfg)) with
  | none =>
    rw [Scored.select?, Scored.best?_eq_argmin, List.argmin_eq_none, List.filter_eq_nil_iff] at hs
    exact absurd (Score.le_rat.mpr (hreach hscore)) (hs _ (hmem hc))
  | some s =>
    obtain ⟨e, he, rfl⟩ := List.mem_map.mp (Scored.select?_mem hs).1
    have hle : ∀ e' ∈ candidates, (q.score cfg e').score = 1 →
        (q.score cfg e).key ≤ (q.score cfg e').key :=
      fun e' he' hscore' => Scored.select?_le hs (hmem he') (hreach hscore')
    -- the least key has the highest score
    have hone : (q.score cfg e).score = 1 := by
      refine le_antisymm (score_le_one q cfg e) ?_
      have hfirst := Prod.Lex.monotone_fst _ _ (hle c hc hscore)
      exact hscore ▸ neg_le_neg_iff.mp hfirst
    refine ⟨e, he, rfl, hone, fun e' he' hscore' => ?_⟩
    rcases Prod.Lex.toLex_le_toLex.mp (hle e' he' hscore') with hlt | ⟨-, hplace⟩
    · rw [hone, hscore'] at hlt
      exact absurd hlt (lt_irrefl _)
    · exact hplace

/-- **When an exact copy wins.**  With positive weights a candidate that copies the target makes the
choice agree with the target in all that is scored.  The choice is a copy itself exactly if some
copy stands before all candidates that agree so far without being copies. -/
theorem copy_wins_iff (hcfg : cfg.Valid) (hw : cfg.Weighted)
    (hpath : q.later.path = q.earlier.path)
    (hat : ∀ e ∈ candidates, q.earlier.elements[e.index]? = some e) (hc : c ∈ candidates)
    (hname : q.target.name = c.name) (hsignature : q.target.signature = c.signature)
    (hcontainer : q.later.containerName q.target = q.earlier.containerName c)
    (halike : q.target.tree.Alike c.tree)
    (ht : q.target.tree.Sound Tree.hash) (hcs : c.tree.Sound Tree.hash)
    (htd : q.target.tree.Distinct) (hcd : c.tree.Distinct) :
    ∃ s, (q.classify cfg candidates).chosen = some s ∧ s.element ∈ candidates ∧ s.score = 1 ∧
      q.Full cfg s.element ∧ (q.target.tree.Alike s.element.tree ↔
        ∃ e ∈ candidates, q.Full cfg e ∧ q.target.tree.Alike e.tree ∧ ∀ e' ∈ candidates,
          q.Full cfg e' → ¬ q.target.tree.Alike e'.tree → q.place e < q.place e') := by
  have hpaths : q.later.containerPath q.target = q.earlier.containerPath c := by
    rw [Model.containerPath, Model.containerPath, hpath, hcontainer]
  have hfull := full_of_alike hname hsignature hpaths halike ht hcs htd hcd (c := cfg)
  obtain ⟨e, he, hchosen, hscore, hnearest⟩ := classify_full hcfg hc (hfull.score_eq_one hcfg ht)
  have hefull : q.Full cfg e := (score_eq_one_iff hcfg hw ht).mp hscore
  refine ⟨_, hchosen, he, hscore, hefull, ?_⟩
  show q.target.tree.Alike e.tree ↔ _
  constructor
  · intro hcopy
    refine ⟨e, he, hefull, hcopy, fun e' he' hfull' hnot => ?_⟩
    refine lt_of_le_of_ne (hnearest e' he' (hfull'.score_eq_one hcfg ht)) fun heq => hnot ?_
    -- two candidates at one place of the model are one
    have hindex : e.index = e'.index := (Prod.ext_iff.mp heq).2
    have hsame : e = e' := Option.some.inj ((hat e he).symm.trans (hindex ▸ hat e' he'))
    exact hsame ▸ hcopy
  · -- the first copy would stand before the choice, which stands before all
    rintro ⟨e', he', hfull', -, hfirst⟩
    by_contra hnot
    exact (hnearest e' he' (hfull'.score_eq_one hcfg ht)).not_gt (hfirst e he hefull hnot)

/-! ### A copy next to a longer version -/

/-- A method in the lines three to five that holds a node more than the one of `methodAt`. -/
def longer : Element :=
  { methodAt 1 "f" 3 none with
    lines := ⟨3, 5⟩
    tree := .node 1 "FunctionDef" "" ⟨3, 5⟩ [.node 2 "Pass" "" ⟨5, 5⟩ []] }

/-- A method whose earlier file holds a copy of it in the same lines, and after it a longer one. -/
def copyNearer : Lookup where
  target := methodAt 0 "f" 1 none
  later := fileOf [methodAt 0 "f" 1 none]
  earlier := fileOf [methodAt 0 "f" 1 none, longer]

/-- Both candidates have the full score; the copy is nearer and wins. -/
theorem copy_wins_iff_copyNearer : (copyNearer.score .standardExact longer).score = 1 ∧
    ¬ copyNearer.target.tree.Alike longer.tree ∧
    ∃ s, (copyNearer.classify .standardExact [longer, methodAt 0 "f" 1 none]).chosen = some s ∧
      s.score = 1 ∧ copyNearer.target.tree.Alike s.element.tree := by
  have hat : ∀ e ∈ [longer, methodAt 0 "f" 1 none],
      copyNearer.earlier.elements[e.index]? = some e := by
    intro e he
    rcases List.mem_pair.mp he with rfl | rfl <;> rfl
  have hcopy : copyNearer.target.tree.Alike (methodAt 0 "f" 1 none).tree := .node rfl nofun
  obtain ⟨s, hs, -, hscore, -, hiff⟩ := copy_wins_iff MatchingConfig.valid_standardExact
    MatchingConfig.weighted_standardExact rfl hat (List.mem_cons_of_mem _ List.mem_cons_self)
    rfl rfl rfl hcopy (sound_methodAt ..) (sound_methodAt ..) (by decide) (by decide)
  refine ⟨by decide +kernel, by decide, s, hs, hscore, hiff.mpr ?_⟩
  refine ⟨methodAt 0 "f" 1 none, List.mem_cons_of_mem _ List.mem_cons_self, ?_, hcopy, ?_⟩
  · exact full_of_alike rfl rfl rfl hcopy (sound_methodAt ..) (sound_methodAt ..) (by decide)
      (by decide)
  · intro e he _ hnot
    rcases List.mem_pair.mp he with rfl | rfl
    · exact Prod.Lex.toLex_lt_toLex.mpr (.inl (by decide))
    · exact absurd hcopy hnot

/-- A class loses a statement, and further down in the earlier file stands a copy of what is left.
Both have the full score, and the longer one is nearer. -/
theorem not_copy_wins : ∃ (q : Lookup) (d c : Element),
    Model.ofBytes (fun _ => none) "class A:\n    pass\n".toUTF8.toList "x.py" = .ok q.later ∧
    Model.ofBytes (fun _ => none)
      "class A:\n    pass\n    pass\nclass A:\n    pass\n".toUTF8.toList "x.py"
        = .ok q.earlier ∧
    q.target ∈ q.later.elements ∧ d ∈ q.earlier.elements ∧ c ∈ q.earlier.elements ∧
    c.kind = q.target.kind ∧ q.target.name = c.name ∧ q.target.signature = c.signature ∧
    q.later.containerName q.target = q.earlier.containerName c ∧
    q.target.tree.Alike c.tree ∧ q.target.tree.Distinct ∧ c.tree.Distinct ∧ d.tree.Distinct ∧
    MatchingConfig.standardExact.Valid ∧ MatchingConfig.standardExact.Weighted ∧
    ∃ s, (q.classify .standardExact [d, c]).chosen = some s ∧
      ¬ q.target.tree.Alike s.element.tree := by
  have htell : versionsTell "class A:\n    pass\n"
      "class A:\n    pass\n    pass\nclass A:\n    pass\n" (fun q d _ _ =>
        match q.earlier.elements[1]? with
        | none => false
        | some c =>
          decide (c.kind = q.target.kind ∧ q.target.name = c.name ∧
            q.target.signature = c.signature ∧
            q.later.containerName q.target = q.earlier.containerName c ∧
            q.target.tree.Alike c.tree ∧ q.target.tree.Distinct ∧ c.tree.Distinct ∧
            d.tree.Distinct) &&
          (q.classify MatchingConfig.standardExact [d, c]).chosen.any fun s =>
            !decide (q.target.tree.Alike s.element.tree)) = true := by
    decide +kernel
  obtain ⟨m, m', _, _, t, d, hm, hm', _, _, ht, hd, hfacts⟩ := exists_of_versionsTell htell
  split at hfacts
  · cases hfacts
  · rename_i c hc
    obtain ⟨hcopy, hchosen⟩ := Bool.and_eq_true_iff.mp hfacts
    obtain ⟨hkind, hname, hsignature, hcontainer, halike, htd, hcd, hdd⟩ := of_decide_eq_true hcopy
    obtain ⟨s, hs, hlonger⟩ := (Option.any_eq_true ..).mp hchosen
    exact ⟨⟨t, m, m'⟩, d, c, hm, hm', ht, hd, Array.mem_of_getElem? hc, hkind, hname, hsignature,
      hcontainer, halike, htd, hcd, hdd, MatchingConfig.valid_standardExact,
      MatchingConfig.weighted_standardExact, s, hs, by simpa using hlonger⟩

end Lookup
end Lineage
