import Lineage.History.Match
import Lineage.Proofs.Matching.Label

/-! # What is chosen is a candidate

Each tier offers elements of the target's kind, the classification of a target
chooses one of the elements that it is given, and so whatever a search accepts was
chosen among elements of the earlier model that have the target's kind: in the target's
own file (`chooses_of_search`) and in another one (`chooses_of_elsewhere?`).  Its score
reaches the threshold (`Chooses.reaches`), and its label is that of a change from it
(`Chooses.label_eq`), which never says that it was introduced or removed (`labelChange_ne`).
-/
namespace Lineage

namespace Scored
variable {α : Type} [Score α]

/-- A step of the choice keeps the incumbent or takes the challenger. -/
theorem foldl_mem {all rest : List (Scored α)} {best : Scored α} (hbest : best ∈ all)
    (hrest : ∀ t ∈ rest, t ∈ all) :
    rest.foldl (fun best t => if t.before best then t else best) best ∈ all := by
  induction rest generalizing best with
  | nil => exact hbest
  | cons t rest ih =>
    rw [List.foldl_cons]
    refine ih ?_ fun u hu => hrest u (List.mem_cons_of_mem _ hu)
    split
    · exact hrest t List.mem_cons_self
    · exact hbest

theorem best?_mem {l : List (Scored α)} {s : Scored α} (h : best? l = some s) : s ∈ l := by
  cases l with
  | nil => cases h
  | cons t rest =>
    cases h
    exact foldl_mem List.mem_cons_self fun u hu => List.mem_cons_of_mem _ hu

/-- What is selected is one of the scored candidates, and its score reaches the
threshold. -/
theorem select?_mem {threshold : α} {l : List (Scored α)} {s : Scored α}
    (h : select? threshold l = some s) : s ∈ l ∧ Score.le threshold s.score = true :=
  List.mem_filter.mp (best?_mem h)

end Scored

namespace Lookup
variable {α : Type} [Score α] {q : Lookup} {c : MatchingConfig α}

theorem mem_sameKind {e : Element} (h : e ∈ q.sameKind) :
    e ∈ q.earlier.elements.toList ∧ e.kind = q.target.kind := by
  obtain ⟨hmem, hkind⟩ := List.mem_filter.mp h
  obtain ⟨hkind, -⟩ := Bool.and_eq_true_iff.mp hkind
  exact ⟨hmem, eq_of_beq hkind⟩

theorem byCounterparts_subset {mapping : NodeMapping} {limit : Nat} :
    q.byCounterparts mapping limit ⊆ q.sameKind := by
  intro e he
  obtain ⟨⟨count, e'⟩, htaken, rfl⟩ := List.mem_map.mp he
  have hsorted := List.mem_mergeSort.mp (List.mem_of_mem_take htaken)
  obtain ⟨e₀, he₀, hcount⟩ := List.mem_filterMap.mp hsorted
  dsimp only at hcount
  split at hcount
  · cases hcount
  · cases hcount
    exact he₀

/-- Each tier offers elements of the target's kind only. -/
theorem inTier_subset {matcher : Option (Matcher α)} {limit : Nat} {tier : Tier} :
    (q.inTier matcher limit tier).elements ⊆ q.sameKind := by
  cases tier with
  | exact | name | container | containment => exact List.filter_sublist.subset
  | wholeFile =>
    unfold inTier
    cases matcher with
    | none => exact List.nil_subset _
    | some m =>
      dsimp only
      split
      · exact List.nil_subset _
      · exact byCounterparts_subset

theorem firstTier?_subset {matcher : Option (Matcher α)} {limit : Nat} {tiers : List Tier}
    {found : Found} (h : q.firstTier? matcher limit tiers = some found) :
    found.elements ⊆ q.sameKind := by
  induction tiers with
  | nil => cases h
  | cons tier rest ih =>
    rw [firstTier?] at h
    split at h
    · exact ih h
    · cases h
      exact inTier_subset

/-- A classification chooses one of the elements that it is given; its score reaches the
threshold, and the label is that of the change from it. -/
theorem classify_chosen {candidates : List Element} {s : Scored α}
    (h : (q.classify c candidates).chosen = some s) :
    s.element ∈ candidates ∧ Score.le c.threshold s.score = true ∧
      (q.classify c candidates).kind = q.labelChange c.fragmentRatio s.element := by
  unfold classify at h ⊢
  dsimp only at h ⊢
  cases hs : Scored.select? c.threshold (candidates.map (q.score c)) with
  | none =>
    rw [hs] at h
    cases h
  | some t =>
    rw [hs] at h
    cases h
    obtain ⟨hmem, hreach⟩ := Scored.select?_mem hs
    obtain ⟨e, he, rfl⟩ := List.mem_map.mp hmem
    exact ⟨he, hreach, rfl⟩

theorem classify_eq_score {candidates : List Element} {s : Scored α}
    (h : (q.classify c candidates).chosen = some s) : s = q.score c s.element := by
  unfold classify at h
  dsimp only at h
  split at h
  · cases h
  · rename_i hs
    cases h
    obtain ⟨e, -, rfl⟩ := List.mem_map.mp (Scored.select?_mem hs).1
    rfl

theorem classify_kind {candidates : List Element} :
    (q.classify c candidates).kind = match (q.classify c candidates).chosen with
      | none => .introduced
      | some s => q.labelChange c.fragmentRatio s.element := by
  unfold classify
  dsimp only
  split <;> rfl

theorem classify_score {candidates : List Element} :
    (q.classify c candidates).score = match (q.classify c candidates).chosen with
      | none => Scored.largest (candidates.map (q.score c))
      | some s => s.score := by
  unfold classify
  dsimp only
  split <;> rfl

/-- No label says that an element was introduced or removed. -/
theorem labelChange_ne (q : Lookup) (r : α) (e : Element) :
    q.labelChange r e ≠ .introduced ∧ q.labelChange r e ≠ .removed := by
  unfold labelChange
  rcases q.extraction?_cases r e with hnone | hextract | hinlined
  · rw [hnone]
    dsimp only
    repeat' split
    all_goals exact ⟨nofun, nofun⟩
  · rw [hextract]
    exact ⟨nofun, nofun⟩
  · rw [hinlined]
    exact ⟨nofun, nofun⟩

variable (q c) in
/-- A candidate of the target's kind is chosen, with the label of the change from it. -/
def Chooses (s : Scored α) (kind : ChangeKind) : Prop :=
  ∃ es ⊆ q.sameKind, (q.classify c es).chosen = some s ∧ (q.classify c es).kind = kind

namespace Chooses
variable {s : Scored α} {kind : ChangeKind}

theorem mem_elements (h : q.Chooses c s kind) : s.element ∈ q.earlier.elements.toList := by
  obtain ⟨es, hes, hs, -⟩ := h
  exact (mem_sameKind (hes (classify_chosen hs).1)).1

theorem kind_eq (h : q.Chooses c s kind) : s.element.kind = q.target.kind := by
  obtain ⟨es, hes, hs, -⟩ := h
  exact (mem_sameKind (hes (classify_chosen hs).1)).2

theorem reaches (h : q.Chooses c s kind) : Score.le c.threshold s.score = true := by
  obtain ⟨es, -, hs, -⟩ := h
  exact (classify_chosen hs).2.1

theorem score_eq (h : q.Chooses c s kind) : s = q.score c s.element := by
  obtain ⟨es, -, hs, -⟩ := h
  exact classify_eq_score hs

theorem label_eq (h : q.Chooses c s kind) : kind = q.labelChange c.fragmentRatio s.element := by
  obtain ⟨es, -, hs, rfl⟩ := h
  exact (classify_chosen hs).2.2

end Chooses

theorem searchFrom_accepted {tiers : List Tier} {rejected : List Nat} {best : α} {tier : Tier}
    {s : Scored α} {kind : ChangeKind}
    (h : q.searchFrom c tiers rejected best = .accepted tier s kind) :
    q.Chooses c s kind := by
  have hrejected : ∀ ids b,
      (TierSearch.ofRejected ids b : TierSearch α) ≠ .accepted tier s kind := by
    intro ids b hids
    unfold TierSearch.ofRejected at hids
    split at hids <;> cases hids
  induction tiers generalizing rejected best with
  | nil => exact absurd h (hrejected _ _)
  | cons t rest ih =>
    rw [searchFrom] at h
    dsimp only at h
    split at h
    · exact ih h
    · split at h
      · split at h
        · exact absurd h (hrejected _ _)
        · exact ih h
      · split at h
        · rename_i hchosen
          cases h
          exact ⟨_, List.Subset.trans List.filter_sublist.subset inTier_subset, hchosen, rfl⟩
        · split at h
          · exact absurd h (hrejected _ _)
          · exact ih h

/-- What a search accepts was chosen among elements of the target's kind. -/
theorem chooses_of_search {tier : Tier} {s : Scored α} {kind : ChangeKind}
    (h : q.search c = .accepted tier s kind) : q.Chooses c s kind :=
  searchFrom_accepted h

/-- What is accepted in another file was chosen among elements of the target's kind. -/
theorem chooses_of_elsewhere? {s : Scored α} {kind : ChangeKind}
    (h : q.elsewhere? c = some (s, kind)) : q.Chooses c s kind := by
  unfold elsewhere? at h
  split at h
  · cases h
  · rename_i found hfound
    split at h
    · cases h
    · obtain ⟨t, ht, heq⟩ := Option.map_eq_some_iff.mp h
      cases heq
      exact ⟨_, firstTier?_subset hfound, ht, rfl⟩

end Lookup
end Lineage
