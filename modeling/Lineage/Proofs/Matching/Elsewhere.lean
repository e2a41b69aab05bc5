import Lineage.Proofs.Matching.Tiers

/-!
# Candidates in another file

For another file only the tiers up to the one by container count, so whatever is accepted there is
called like the target. Where the two have different qualified names, the other file has no element
of the target's one (`Lookup.like_of_elsewhere?`).

That the files are different makes the change one of container, unless it is taken for an
extraction or an inlining. Both go by names: they ask the target's file for a declaration of the
candidate's name, although the candidate is not in that file and a declaration of that name there is
another one. So the label of a move depends on namesakes (`Lookup.Mistaken`,
`Lookup.label_elsewhere`).
-/

namespace Lineage.Lookup
variable {α : Type} [Score α] {q : Lookup} {c : MatchingConfig α} {e : Element} {r : α}

/-! ### What is accepted -/

/-- The tier that is taken is the first one that has candidates. -/
theorem firstTier?_eq_some {matcher : Option (Matcher α)} {limit : Nat} {tiers : List Tier}
    {found : Found} (h : q.firstTier? matcher limit tiers = some found) :
    ∃ passed tier rest, tiers = passed ++ tier :: rest ∧ found = q.inTier matcher limit tier ∧
      ∀ t ∈ passed, (q.inTier matcher limit t).elements = [] := by
  induction tiers with
  | nil => cases h
  | cons tier rest ih =>
    rw [firstTier?] at h
    split at h
    · rename_i hempty
      obtain ⟨passed, tier', rest', rfl, hfound, hpassed⟩ := ih h
      exact ⟨tier :: passed, tier', rest', rfl, hfound,
        List.forall_mem_cons.mpr ⟨List.isEmpty_iff.mp hempty, hpassed⟩⟩
    · cases h
      exact ⟨[], tier, rest, rfl, rfl, List.forall_mem_nil _⟩

/-- Before the tier by container, the one by name was passed over. -/
theorem name_mem_of_container {passed rest : List Tier}
    (h : Tier.all = passed ++ .container :: rest) : .name ∈ passed := by
  have hname : Tier.name ∈ passed ++ .container :: rest := h ▸ by decide
  rcases List.mem_append.mp hname with hpassed | hrest
  · exact hpassed
  · -- the tiers are in the order of their ranks
    have hsorted : (passed ++ .container :: rest).Pairwise fun t u => t.rank < u.rank :=
      h ▸ by decide
    rcases List.mem_cons.mp hrest with heq | hrest
    · cases heq
    · have hlt := List.rel_of_pairwise_cons (List.pairwise_append.mp hsorted).2.1 hrest
      exact absurd hlt (by decide)

variable (q) in
/-- An element of the earlier file is called like the target: it has its qualified name, or its
simple name where no candidate has the qualified one. -/
def Like (e : Element) : Prop :=
  q.target.qualifiedName = e.qualifiedName ∨
    q.target.name = e.name ∧ ∀ e' ∈ q.sameKind, e'.qualifiedName ≠ q.target.qualifiedName

/-- What is accepted in another file is called like the target. -/
theorem like_of_elsewhere? {s : Scored α} {kind : ChangeKind}
    (h : q.elsewhere? c = some (s, kind)) : q.Like s.element := by
  unfold elsewhere? at h
  split at h
  · cases h
  rename_i found hfound
  split at h
  · cases h
  rename_i hrank
  obtain ⟨t, ht, heq⟩ := Option.map_eq_some_iff.mp h
  cases heq
  have hmem := (classify_chosen ht).1
  obtain ⟨passed, tier, rest, htiers, rfl, hpassed⟩ := firstTier?_eq_some hfound
  rw [inTier_tier] at hrank
  cases tier with
  | exact => exact .inl (of_mem_exact hmem).1
  | name => exact .inl (of_mem_name hmem)
  | container =>
    refine .inr ⟨of_mem_container hmem, fun e he hqualified => ?_⟩
    have hoffered : e ∈ (q.inTier (none : Option (Matcher α)) 3 .name).elements :=
      List.mem_filter.mpr ⟨he, beq_iff_eq.mpr hqualified⟩
    rw [hpassed .name (name_mem_of_container htiers)] at hoffered
    cases hoffered
  | containment | wholeFile => exact absurd (by decide) hrank

/-! ### Its label -/

/-- Between different files every change is one of container that is neither an extraction nor an
inlining. -/
theorem labelChange_of_path_ne (hpath : q.later.path ≠ q.earlier.path) :
    q.labelChange r e = (q.extraction? r e).getD .containerChange := by
  unfold labelChange
  cases q.extraction? r e with
  | some kind => rfl
  | none =>
    have hother : (q.later.path != q.earlier.path) = true := bne_iff_ne.mpr hpath
    exact if_pos (by rw [hother, Bool.or_true])

variable (q) in
/-- A move from `e` is not taken for one. Blocks and variables: the methods around the two versions
have different names, and exactly one of them has a namesake in the other file. Other elements: the
two have different names, `e` has a namesake in the later file, and enough of the target's tokens
are found in `e`. -/
def Mistaken (r : α) (e : Element) : Prop :=
  if q.target.isLocal then
    ∃ owner source, q.later.enclosingMethod? q.target = some owner ∧
      q.earlier.enclosingMethod? e = some source ∧ owner.qualifiedName ≠ source.qualifiedName ∧
      q.earlier.hasDeclaration .methodDecl owner.qualifiedName
        ≠ q.later.hasDeclaration .methodDecl source.qualifiedName
  else
    q.target.qualifiedName ≠ e.qualifiedName ∧
      q.later.hasDeclaration e.kind e.qualifiedName = true ∧
      Score.le r (Sequence.fragmentRatio q.target.bodyTokens e.bodyTokens) = true

/-- The methods around two blocks or variables decide whether a move is taken for one. -/
theorem extraction?_of_local (hlocal : q.target.isLocal = true) :
    q.extraction? r e = none ↔ ¬ q.Mistaken r e := by
  unfold extraction? Mistaken
  rw [if_pos hlocal, if_pos hlocal]
  cases howner : q.later.enclosingMethod? q.target with
  | none => simp
  | some owner =>
    cases hsource : q.earlier.enclosingMethod? e with
    | none => simp
    | some source =>
      by_cases hname : owner.qualifiedName = source.qualifiedName
      · simp [hname]
      · have hnames : (owner.qualifiedName == source.qualifiedName) = false :=
          beq_eq_false_iff_ne.mpr hname
        cases hthere : q.earlier.hasDeclaration .methodDecl owner.qualifiedName <;>
          cases hback : q.later.hasDeclaration .methodDecl source.qualifiedName <;>
          simp [hname, hthere, hback]

/-- The other file does not declare what is called like the target without having its name. -/
theorem hasDeclaration_eq_false (hlocal : q.target.isLocal = false)
    (hnew : ∀ e' ∈ q.sameKind, e'.qualifiedName ≠ q.target.qualifiedName) :
    q.earlier.hasDeclaration q.target.kind q.target.qualifiedName = false := by
  have hkind : q.target.kind ≠ .blockStmt := by
    intro hblock
    rw [Element.isLocal, hblock] at hlocal
    cases hlocal
  refine Bool.eq_false_iff.mpr fun hdeclared => ?_
  obtain ⟨e', he', hsame⟩ := Array.any_eq_true'.mp hdeclared
  rw [Bool.and_eq_true, beq_iff_eq, beq_iff_eq] at hsame
  refine hnew e' (List.mem_filter.mpr ⟨Array.mem_toList_iff.mpr he', ?_⟩) hsame.2
  rw [hsame.1, beq_self_eq_true, Bool.true_and, bne_iff_ne.mpr hkind, Bool.true_or]

/-- Of an element that is not a block or a variable, a move is taken for an extraction or for what
it is. -/
theorem extraction?_of_not_local (hlocal : q.target.isLocal = false) (hlike : q.Like e) :
    (q.Mistaken r e → q.extraction? r e = some .extract) ∧
      (¬ q.Mistaken r e → q.extraction? r e = none) := by
  unfold extraction? Mistaken
  rw [hlocal, if_neg Bool.false_ne_true, if_neg Bool.false_ne_true]
  rcases hlike with hname | ⟨-, hnew⟩
  · simp [hname]
  · rw [hasDeclaration_eq_false hlocal hnew]
    by_cases hname : q.target.qualifiedName = e.qualifiedName
    · simp [hname]
    · cases q.later.hasDeclaration e.kind e.qualifiedName <;> simp [hname]

/-- The label of what is accepted in another file: a change of container, unless the move is
mistaken; and then, for other elements than blocks and variables, an extraction. -/
theorem label_elsewhere (hpath : q.later.path ≠ q.earlier.path) {s : Scored α}
    {kind : ChangeKind} (h : q.elsewhere? c = some (s, kind)) :
    (kind = .containerChange ↔ ¬ q.Mistaken c.fragmentRatio s.element) ∧
      (q.target.isLocal = false →
        (kind = .extract ↔ q.Mistaken c.fragmentRatio s.element)) := by
  rw [(chooses_of_elsewhere? h).label_eq, labelChange_of_path_ne hpath]
  cases hlocal : q.target.isLocal with
  | true =>
    refine ⟨?_, nofun⟩
    rw [← extraction?_of_local hlocal]
    rcases q.extraction?_cases c.fragmentRatio s.element with hlabel | hlabel | hlabel <;>
      simp [hlabel]
  | false =>
    obtain ⟨hextract, hnone⟩ := extraction?_of_not_local (r := c.fragmentRatio) hlocal
      (like_of_elsewhere? h)
    by_cases hmistaken : q.Mistaken c.fragmentRatio s.element
    · simp [hmistaken, hextract hmistaken]
    · simp [hmistaken, hnone hmistaken]

end Lineage.Lookup
