import Lineage.Proofs.Matching.Chosen
import Lineage.Proofs.Score

/-! # Raising the threshold

A higher threshold filters what a lower one selects: the best candidate is the same or, if
it does not reach the higher threshold, there is none (`select?_raise`).  The same holds of
the file that a moved element comes from (`elsewhere?_raise`).

It does not hold of a search through the tiers, which goes on where a tier has no candidate
above the threshold.  A search with the higher threshold has the same outcome, unless the
lower threshold accepts a candidate that does not reach the higher one (`search_raise`); then
the search with the higher threshold may go on and accept another one.
-/
namespace Lineage
open Score

/-! ### Choosing one of many -/

/-- A choice between an incumbent and a challenger that takes the one with a property where only
one of them has it. -/
structure GoesBy {β : Type} (p : β → Bool) (f : β → β → β) (good : β → Prop) : Prop where
  either : ∀ b t, f b t = b ∨ f b t = t
  keeps : ∀ {b t}, good b → good t → p b = true → p t = false → f b t = b
  takes : ∀ {b t}, good b → good t → p b = false → p t = true → f b t = t

/-- The choice when there may be no incumbent. -/
def challenge {β : Type} (f : β → β → β) : Option β → β → Option β
  | none, t => some t
  | some b, t => some (f b t)

namespace GoesBy
variable {β : Type} {p : β → Bool} {f : β → β → β} {good : β → Prop}

theorem challenge_good (h : GoesBy p f good) {best : Option β}
    (hbest : ∀ b, best = some b → good b) {t : β} (ht : good t) :
    ∀ b, challenge f best t = some b → good b := by
  intro b hb
  rcases best with _ | b'
  · cases hb
    exact ht
  · cases hb
    rcases h.either b' t with heq | heq <;> rw [heq]
    · exact hbest b' rfl
    · exact ht

theorem challenge_filter (h : GoesBy p f good) {best : Option β}
    (hbest : ∀ b, best = some b → good b) {t : β} (ht : good t) : (challenge f best t).filter p
      = if p t = true then challenge f (best.filter p) t else best.filter p := by
  rcases best with _ | b
  · rfl
  have hb := hbest b rfl
  show (some (f b t)).filter p = _
  -- if one of the two has the property it is chosen, and if both or none have it either will do
  rcases hpb : p b with _ | _ <;> rcases hpt : p t with _ | _
  · rw [Option.filter_some_neg hpb, if_neg Bool.false_ne_true]
    rcases h.either b t with heq | heq <;> rw [heq]
    · exact Option.filter_some_neg hpb
    · exact Option.filter_some_neg hpt
  · rw [Option.filter_some_neg hpb, if_pos rfl, h.takes hb ht hpb hpt]
    exact Option.filter_some_pos hpt
  · rw [if_neg Bool.false_ne_true, h.keeps hb ht hpb hpt]
  · rw [Option.filter_some_pos hpb, if_pos rfl]
    refine Option.filter_some_pos ?_
    rcases h.either b t with heq | heq <;> rw [heq]
    · exact hpb
    · exact hpt

/-- The choice among those with the property is the choice among all, if that has the property. -/
theorem foldl_filter (h : GoesBy p f good) {l : List β} {best : Option β}
    (hbest : ∀ b, best = some b → good b) (hl : ∀ t ∈ l, good t) :
    (l.filter p).foldl (challenge f) (best.filter p) = (l.foldl (challenge f) best).filter p := by
  induction l generalizing best with
  | nil => rfl
  | cons t l ih =>
    have ht := hl t List.mem_cons_self
    rw [List.foldl_cons, ← ih (h.challenge_good hbest ht) fun u hu =>
      hl u (List.mem_cons_of_mem _ hu), h.challenge_filter hbest ht, List.filter_cons]
    split <;> rfl

end GoesBy

/-- A scan that has an incumbent never loses it. -/
theorem foldl_challenge {β : Type} (f : β → β → β) (l : List β) (b : β) :
    l.foldl (challenge f) (some b) = some (l.foldl f b) := by
  induction l generalizing b with
  | nil => rfl
  | cons t l ih => exact ih (f b t)

variable {α : Type} [Score α]

/-! ### Candidates -/

namespace Scored

/-- The score reaches a threshold. -/
def reaches (t : α) (s : Scored α) : Bool := le t s.score

theorem best?_eq (l : List (Scored α)) :
    best? l = l.foldl (challenge fun best t => if t.before best then t else best) none := by
  cases l with
  | nil => rfl
  | cons s rest => exact (foldl_challenge _ rest s).symm

/-- Nothing is selected exactly if no score reaches the threshold. -/
theorem select?_eq_none {t : α} {l : List (Scored α)} :
    select? t l = none ↔ ∀ s ∈ l, s.reaches t = false := by
  have hbest : ∀ l : List (Scored α), best? l = none ↔ l = [] := by
    intro l
    cases l <;> simp [best?]
  rw [select?, hbest, List.filter_eq_nil_iff]
  simp [reaches]

variable [Ordered α]

/-- The preference goes by the score first. -/
theorem goesBy_before (t : α) : GoesBy (reaches t)
    (fun best s : Scored α => if s.before best then s else best) fun s => Number s.score where
  either b s := by
    split
    · exact .inr rfl
    · exact .inl rfl
  keeps := by
    intro b s _ hs hreach hnot
    refine if_neg ?_
    have hlt : lt s.score b.score = true := lt_of_not_reach hs hreach hnot
    have hnlt : lt b.score s.score = false := by
      rw [Bool.eq_false_iff]
      intro h
      rw [reaches, le_of_le_of_lt hreach h] at hnot
      cases hnot
    rw [before, hnlt, hlt]
    exact Bool.false_ne_true
  takes := by
    intro b s hb _ hnot hreach
    refine if_pos ?_
    rw [before, lt_of_not_reach hb hreach hnot]
    rfl

/-- **A higher threshold filters the selection.** -/
theorem select?_raise {t₁ t₂ : α} (ht : le t₁ t₂ = true) {l : List (Scored α)}
    (hl : ∀ s ∈ l, Number s.score) : select? t₂ l = (select? t₁ l).filter (reaches t₂) := by
  have hboth : l.filter (reaches t₂) = (l.filter (reaches t₁)).filter (reaches t₂) := by
    rw [List.filter_filter]
    refine List.filter_congr fun s _ => ?_
    rw [Bool.eq_iff_iff, Bool.and_eq_true, iff_self_and]
    exact Ordered.le_trans ht
  show best? (l.filter (reaches t₂)) = (best? (l.filter (reaches t₁))).filter (reaches t₂)
  rw [hboth, best?_eq, best?_eq]
  have hnone : ∀ b : Scored α, none = some b → Number b.score := nofun
  exact (goesBy_before t₂).foldl_filter hnone fun s hs => hl s (List.mem_filter.mp hs).1

end Scored

/-! ### Searches -/

/-- The settings with another threshold. -/
def MatchingConfig.withThreshold (c : MatchingConfig α) (t : α) : MatchingConfig α :=
  { c with threshold := t }

/-- What a search has accepted. -/
def TierSearch.accepted? : TierSearch α → Option (Tier × Scored α × ChangeKind)
  | accepted tier s kind => some (tier, s, kind)
  | rejected _ | nothing => none

namespace Lookup
variable {q : Lookup} {c : MatchingConfig α} {t₁ t₂ : α}

theorem classify_eq (c : MatchingConfig α) (es : List Element) :
    (q.classify c es).chosen = Scored.select? c.threshold (es.map (q.score c)) := by
  unfold classify
  dsimp only
  split <;> rename_i h <;> exact h.symm

variable [Ordered α]

theorem classify_raise (ht : le t₁ t₂ = true) (es : List Element) :
    (q.classify (c.withThreshold t₂) es).chosen
      = (q.classify (c.withThreshold t₁) es).chosen.filter (Scored.reaches t₂) := by
  rw [classify_eq, classify_eq]
  refine Scored.select?_raise ht fun s hs => ?_
  obtain ⟨e, -, rfl⟩ := List.mem_map.mp hs
  exact number_clamp _

/-- **A higher threshold filters what is found in another file.** -/
theorem elsewhere?_raise (ht : le t₁ t₂ = true) :
    q.elsewhere? (c.withThreshold t₂)
      = (q.elsewhere? (c.withThreshold t₁)).filter fun x => x.1.reaches t₂ := by
  have hpick : ∀ (t : α) (es : List Element),
      ((q.classify (c.withThreshold t) es).chosen.map fun s =>
        (s, (q.classify (c.withThreshold t) es).kind))
        = (q.classify (c.withThreshold t) es).chosen.map fun s =>
          (s, q.labelChange c.fragmentRatio s.element) := by
    intro t es
    refine Option.map_congr fun s hs => ?_
    rw [(classify_chosen hs).2.2]
    rfl
  unfold elsewhere?
  split
  · rfl
  · split
    · rfl
    · rename_i found _ _
      dsimp only
      rw [hpick, hpick, classify_raise ht, Option.filter_map]
      rfl

variable (t₂) in
/-- The outcome with the higher threshold is the one with the lower, unless that one does not reach
the higher threshold. -/
def Agree (high low : TierSearch α) : Prop :=
  high.accepted? = low.accepted? ∨ ∃ x, low.accepted? = some x ∧ x.2.1.reaches t₂ = false

omit [Ordered α] in
theorem agree_ofRejected (rejected : List Nat) (best best' : α) :
    Agree t₂ (.ofRejected rejected best) (.ofRejected rejected best') := by
  unfold TierSearch.ofRejected
  split <;> exact .inl rfl

/-- As long as no candidate is accepted, searches with both thresholds reject the same ones. -/
theorem searchFrom_raise (ht : le t₁ t₂ = true) (tiers : List Tier) (rejected : List Nat)
    (best best' : α) : Agree t₂ (q.searchFrom (c.withThreshold t₂) tiers rejected best)
      (q.searchFrom (c.withThreshold t₁) tiers rejected best') := by
  induction tiers generalizing rejected best best' with
  | nil => exact agree_ofRejected _ _ _
  | cons tier rest ih =>
    have htier : ∀ t, q.inTier (some (c.withThreshold t).matcher)
        (c.withThreshold t).maxAstCandidates.toNat tier
          = q.inTier (some c.matcher) c.maxAstCandidates.toNat tier := fun _ => rfl
    rw [searchFrom, searchFrom]
    dsimp only
    rw [htier, htier]
    generalize (q.inTier (some c.matcher) c.maxAstCandidates.toNat tier).elements = es
    by_cases hes : es.isEmpty = true
    · rw [if_pos hes, if_pos hes]
      exact ih _ _ _
    rw [if_neg hes, if_neg hes]
    generalize es.filter (fun e => !rejected.contains e.index) = candidates
    by_cases hcandidates : candidates.isEmpty = true
    · rw [if_pos hcandidates, if_pos hcandidates]
      split
      · exact agree_ofRejected _ _ _
      · exact ih _ _ _
    rw [if_neg hcandidates, if_neg hcandidates]
    have hfilter := q.classify_raise (c := c) ht candidates
    -- what the higher threshold accepts is what the lower one does, or nothing
    rcases hlow : (q.classify (c.withThreshold t₁) candidates).chosen with _ | s
    · rw [hlow] at hfilter
      rw [hfilter]
      dsimp only [Option.filter]
      split
      · exact agree_ofRejected _ _ _
      · exact ih _ _ _
    · rw [hlow] at hfilter
      rcases hreach : s.reaches t₂ with _ | _
      · exact .inr ⟨_, rfl, hreach⟩
      · rw [Option.filter_some_pos hreach] at hfilter
        rw [hfilter]
        refine .inl ?_
        show some (tier, s, _) = some (tier, s, _)
        rw [(classify_chosen hfilter).2.2, (classify_chosen hlow).2.2]
        rfl

/-- **A search with a higher threshold has the same outcome**, unless the lower one accepts a
candidate that does not reach the higher one. -/
theorem search_raise (ht : le t₁ t₂ = true) :
    Agree t₂ (q.search (c.withThreshold t₂)) (q.search (c.withThreshold t₁)) :=
  searchFrom_raise ht _ _ _ _

end Lookup
end Lineage
