import Lineage.Proofs.Matching.Threshold
import Lineage.Proofs.Matching.Unedited

/-! # The choice among candidates

The order of preference goes by the score, then by the distance in lines, and last by the place in
the model.  Scores are numbers, so it is a strict order (`Scored.before_trans`), and no two
candidates at different places tie (`Scored.before_total`).  The scan of the candidates keeps one to
which nothing seen so far is preferred; so it ends at the one that is preferred to all others, and
that one depends neither on the order of the list (`Scored.best?_perm`) nor on the threshold, which
only decides whether it is good enough.

The score that is reported is the largest one that a candidate has, also when no candidate is chosen
(`Lookup.score_classify`).
-/
namespace Lineage
open Score

/-! ### Numbers -/

namespace Score
variable {α : Type} [Score α] [Ordered α] {a b c : α}
open Ordered

theorem le_of_lt (h : lt a b = true) : le a b = true := (lt_iff.mp h).1

/-- Of two numbers one is less than the other, unless the other is at most as large. -/
theorem lt_eq_false (ha : Number a) (hb : Number b) : lt a b = false ↔ le b a = true := by
  rw [Bool.eq_false_iff, ne_eq, lt_iff, not_and, Bool.not_eq_false]
  constructor
  · intro h
    rcases total ha hb with hab | hba
    · exact h hab
    · exact hba
  · exact fun h _ => h

theorem lt_of_le_of_lt (hab : le a b = true) (hbc : lt b c = true) : lt a c = true := by
  refine lt_iff.mpr ⟨le_of_le_of_lt hab hbc, Bool.eq_false_iff.mpr fun hca => ?_⟩
  exact Bool.eq_false_iff.mp (lt_iff.mp hbc).2 (le_trans hca hab)

theorem lt_of_lt_of_le (hab : lt a b = true) (hbc : le b c = true) : lt a c = true := by
  refine lt_iff.mpr ⟨le_trans (le_of_lt hab) hbc, Bool.eq_false_iff.mpr fun hca => ?_⟩
  exact Bool.eq_false_iff.mp (lt_iff.mp hab).2 (le_trans hbc hca)

end Score

/-! ### The order of preference -/

namespace Scored
variable {α : Type} [Score α] {a b c : Scored α} {l l' : List (Scored α)}

/-- How candidates of one score are told apart: by what is nearer, then by what comes earlier in the
model. -/
def Nearer (a b : Scored α) : Prop :=
  a.rangeDelta < b.rangeDelta ∨ a.rangeDelta = b.rangeDelta ∧ a.element.index < b.element.index

theorem before_eq_true : a.before b = true ↔
    lt b.score a.score = true ∨ lt a.score b.score = false ∧ a.Nearer b := by
  unfold before Nearer
  by_cases hba : lt b.score a.score = true
  · simp [hba]
  · by_cases hab : lt a.score b.score = true
    · simp [hba, hab]
    · simp only [hba, hab]
      by_cases hlt : a.rangeDelta < b.rangeDelta
      · simp [hlt]
      · by_cases hgt : b.rangeDelta < a.rangeDelta
        · simp [hlt, hgt]
          omega
        · have heq : a.rangeDelta = b.rangeDelta := by omega
          simp [heq]

omit [Score α] in
theorem Nearer.trans (hab : a.Nearer b) (hbc : b.Nearer c) : a.Nearer c := by
  unfold Nearer at *
  omega

omit [Score α] in
theorem nearer_total (h : a.element.index ≠ b.element.index) : a.Nearer b ∨ b.Nearer a := by
  unfold Nearer
  omega

variable [Ordered α]

theorem before_irrefl (a : Scored α) : a.before a = false := by
  rw [Bool.eq_false_iff, ne_eq, before_eq_true]
  rintro (hlt | ⟨-, hnearer⟩)
  · have hself := Ordered.lt_iff.mp hlt
    exact Bool.eq_false_iff.mp hself.2 hself.1
  · unfold Nearer at hnearer
    omega

theorem before_trans (ha : Number a.score) (hb : Number b.score) (hc : Number c.score)
    (hab : a.before b = true) (hbc : b.before c = true) : a.before c = true := by
  rw [before_eq_true, lt_eq_false ha hb] at hab
  rw [before_eq_true, lt_eq_false hb hc] at hbc
  rw [before_eq_true, lt_eq_false ha hc]
  rcases hab with hab | ⟨hab, hnearer⟩
  · rcases hbc with hbc | ⟨hbc, -⟩
    · exact .inl (lt_of_lt_of_le hbc (le_of_lt hab))
    · exact .inl (lt_of_le_of_lt hbc hab)
  · rcases hbc with hbc | ⟨hbc, hnearer'⟩
    · exact .inl (lt_of_lt_of_le hbc hab)
    · exact .inr ⟨Ordered.le_trans hbc hab, hnearer.trans hnearer'⟩

/-- Candidates at different places do not tie. -/
theorem before_total (ha : Number a.score) (hb : Number b.score)
    (h : a.element.index ≠ b.element.index) : a.before b = true ∨ b.before a = true := by
  rw [before_eq_true, before_eq_true, lt_eq_false ha hb, lt_eq_false hb ha]
  by_cases hba : lt b.score a.score = true
  · exact .inl (.inl hba)
  · by_cases hab : lt a.score b.score = true
    · exact .inr (.inl hab)
    · rw [Bool.not_eq_true, lt_eq_false hb ha] at hba
      rw [Bool.not_eq_true, lt_eq_false ha hb] at hab
      exact (nearer_total h).imp (fun hn => .inr ⟨hab, hn⟩) fun hn => .inr ⟨hba, hn⟩

/-! ### The scan -/

/-- What each step of a scan keeps up for what it has seen holds of the whole list in the end. -/
theorem foldl_seen {β γ : Type} {f : γ → β → γ} {P : List β → γ → Prop} {rest : List β}
    (hstep : ∀ t ∈ rest, ∀ seen kept, P seen kept → P (seen ++ [t]) (f kept t)) {seen : List β}
    {kept : γ} (h : P seen kept) : P (seen ++ rest) (rest.foldl f kept) := by
  induction rest generalizing seen kept with
  | nil => rwa [List.append_nil]
  | cons t rest ih =>
    rw [List.foldl_cons, List.append_cons]
    apply ih
    · exact fun u hu => hstep u (List.mem_cons_of_mem _ hu)
    · exact hstep t List.mem_cons_self seen kept h

/-- Among some scored candidates none is preferred to this one of them. -/
structure Unbeaten (l : List (Scored α)) (best : Scored α) : Prop where
  mem : best ∈ l
  numbers : ∀ u ∈ l, Number u.score
  not_before : ∀ u ∈ l, u.before best = false

/-- One step of the scan. -/
theorem Unbeaten.step {best t : Scored α} (h : Unbeaten l best) (ht : Number t.score) :
    Unbeaten (l ++ [t]) (if t.before best then t else best) := by
  have hnumbers : ∀ u ∈ l ++ [t], Number u.score :=
    List.forall_mem_append.mpr ⟨h.numbers, List.forall_mem_singleton.mpr ht⟩
  by_cases htb : t.before best = true
  · rw [if_pos htb]
    refine ⟨List.mem_append_right _ List.mem_cons_self, hnumbers, ?_⟩
    refine List.forall_mem_append.mpr ⟨?_, ?_⟩
    · -- what were preferred to the new one would have been preferred to the old one
      intro u hu
      refine Bool.eq_false_iff.mpr fun hut => Bool.eq_false_iff.mp (h.not_before u hu) ?_
      exact before_trans (h.numbers u hu) ht (h.numbers best h.mem) hut htb
    · exact List.forall_mem_singleton.mpr (before_irrefl t)
  · rw [if_neg htb]
    refine ⟨List.mem_append_left _ h.mem, hnumbers, List.forall_mem_append.mpr ⟨h.not_before, ?_⟩⟩
    exact List.forall_mem_singleton.mpr (Bool.eq_false_iff.mpr htb)

/-- The whole scan. -/
theorem unbeaten_best? (hl : ∀ s ∈ l, Number s.score) {s : Scored α} (h : best? l = some s) :
    Unbeaten l s := by
  cases l with
  | nil => cases h
  | cons first rest =>
    cases h
    obtain ⟨hfirst, hrest⟩ := List.forall_mem_cons.mp hl
    have hstart : Unbeaten [first] first :=
      ⟨List.mem_cons_self, List.forall_mem_singleton.mpr hfirst,
        List.forall_mem_singleton.mpr (before_irrefl first)⟩
    exact foldl_seen (P := Unbeaten) (fun t ht _ _ hseen => hseen.step (hrest t ht)) hstart

/-- The candidate is preferred to all others of a list. -/
def Leads (s : Scored α) (l : List (Scored α)) : Prop :=
  ∀ t ∈ l, t.element.index ≠ s.element.index → s.before t = true

/-- **The best candidate is the one that is preferred to all others**, if no two of them stand at
one place of the model. -/
theorem best?_eq_some_iff (hl : ∀ s ∈ l, Number s.score)
    (hdistinct : (l.map fun s => s.element.index).Nodup) {s : Scored α} :
    best? l = some s ↔ s ∈ l ∧ s.Leads l := by
  have hleads : ∀ {s}, best? l = some s → s ∈ l ∧ s.Leads l := by
    intro s h
    have hs := best?_mem h
    refine ⟨hs, fun t ht hne => ?_⟩
    refine (before_total (hl s hs) (hl t ht) hne.symm).resolve_right ?_
    exact Bool.eq_false_iff.mp ((unbeaten_best? hl h).not_before t ht)
  refine ⟨hleads, fun ⟨hs, hlead⟩ => ?_⟩
  cases hbest : best? l with
  | none =>
    cases l with
    | nil => exact absurd hs List.not_mem_nil
    | cons => cases hbest
  | some s' =>
    obtain ⟨hs', hlead'⟩ := hleads hbest
    by_cases hindex : s.element.index = s'.element.index
    · rw [List.inj_on_of_nodup_map hdistinct hs hs' hindex]
    · -- two that lead would be preferred to each other
      have hcycle := before_trans (hl s hs) (hl s' hs') (hl s hs)
        (hlead s' hs' (Ne.symm hindex)) (hlead' s hs hindex)
      exact absurd hcycle (Bool.eq_false_iff.mp (before_irrefl s))

theorem best?_perm (hperm : l.Perm l') (hl : ∀ s ∈ l, Number s.score)
    (hdistinct : (l.map fun s => s.element.index).Nodup) : best? l = best? l' := by
  refine Option.ext fun s => ?_
  have hl' : ∀ s ∈ l', Number s.score := fun s hs => hl s (hperm.mem_iff.mpr hs)
  have hdistinct' := (hperm.map fun s : Scored α => s.element.index).nodup_iff.mp hdistinct
  rw [best?_eq_some_iff hl hdistinct, best?_eq_some_iff hl' hdistinct']
  simp only [Leads, hperm.mem_iff]

/-! ### The largest score -/

/-- The number is the score of one of the candidates, and no score is above it. -/
def IsLargest (l : List (Scored α)) (a : α) : Prop :=
  (∃ s ∈ l, a = s.score) ∧ ∀ s ∈ l, le s.score a = true

theorem IsLargest.step {a : α} {t : Scored α} (h : IsLargest l a) (ht : Number t.score) :
    IsLargest (l ++ [t]) (larger a t.score) := by
  obtain ⟨⟨s, hs, rfl⟩, hle⟩ := h
  unfold larger
  by_cases hlt : lt s.score t.score = true
  · rw [if_pos hlt]
    refine ⟨⟨t, List.mem_append_right _ List.mem_cons_self, rfl⟩, ?_⟩
    refine List.forall_mem_append.mpr ⟨?_, ?_⟩
    · exact fun u hu => le_of_le_of_lt (hle u hu) hlt
    · exact List.forall_mem_singleton.mpr ht
  · rw [if_neg hlt]
    refine ⟨⟨s, List.mem_append_left _ hs, rfl⟩, List.forall_mem_append.mpr ⟨hle, ?_⟩⟩
    have hself : Number s.score := hle s hs
    exact List.forall_mem_singleton.mpr ((lt_eq_false hself ht).mp (Bool.eq_false_iff.mpr hlt))

theorem isLargest_largest (hne : l ≠ []) (hl : ∀ s ∈ l, Number s.score) :
    IsLargest l (largest l) := by
  obtain ⟨first, rest, rfl⟩ := List.exists_cons_of_ne_nil hne
  obtain ⟨hfirst, hrest⟩ := List.forall_mem_cons.mp hl
  have hstart : IsLargest [first] first.score :=
    ⟨⟨first, List.mem_cons_self, rfl⟩, List.forall_mem_singleton.mpr hfirst⟩
  exact foldl_seen (P := IsLargest) (fun t ht _ _ hseen => hseen.step (hrest t ht)) hstart

end Scored

/-! ### Classifications -/

namespace Lookup
variable {α : Type} [Score α] [Ordered α] {q : Lookup} {c : MatchingConfig α}
variable {candidates shuffled : List Element}

theorem numbers (q : Lookup) (c : MatchingConfig α) (es : List Element) :
    ∀ s ∈ es.map (q.score c), Number s.score := by
  intro s hs
  obtain ⟨e, -, rfl⟩ := List.mem_map.mp hs
  exact number_clamp _

omit [Ordered α] in
theorem nodup_indices (hdistinct : (candidates.map (·.index)).Nodup) :
    ((candidates.map (q.score c)).map fun s => s.element.index).Nodup := by
  rw [List.map_map]
  exact hdistinct

/-- The element is preferred to all other candidates. -/
def Leads (q : Lookup) (c : MatchingConfig α) (candidates : List Element) (e : Element) : Prop :=
  ∀ e' ∈ candidates, e'.index ≠ e.index → (q.score c e).before (q.score c e') = true

/-- What is chosen is preferred to all other candidates, also to those below the threshold. -/
theorem leads_of_chosen (hdistinct : (candidates.map (·.index)).Nodup) {s : Scored α}
    (h : (q.classify c candidates).chosen = some s) : q.Leads c candidates s.element := by
  obtain ⟨-, hreach, -⟩ := classify_chosen h
  have hs := classify_eq_score h
  rw [classify_eq, Scored.select?, Scored.best?_eq_some_iff] at h
  · intro e he hindex
    rw [← hs]
    have hmem := List.mem_map_of_mem (f := q.score c) he
    by_cases hreach' : le c.threshold (q.score c e).score = true
    · exact h.2 _ (List.mem_filter.mpr ⟨hmem, hreach'⟩) hindex
    · -- a candidate below the threshold has a lower score
      refine Scored.before_eq_true.mpr (.inl ?_)
      exact lt_of_not_reach (numbers q c _ _ hmem) hreach (Bool.eq_false_iff.mpr hreach')
  · exact fun t ht => numbers q c _ t (List.mem_filter.mp ht).1
  · exact (nodup_indices hdistinct).sublist (List.filter_sublist.map _)

/-- The order of the candidates does not matter. -/
theorem classify_perm (hperm : shuffled.Perm candidates)
    (hdistinct : (candidates.map (·.index)).Nodup) :
    (q.classify c shuffled).chosen = (q.classify c candidates).chosen ∧
      (q.classify c shuffled).kind = (q.classify c candidates).kind := by
  have hchosen : (q.classify c shuffled).chosen = (q.classify c candidates).chosen := by
    rw [classify_eq, classify_eq, Scored.select?, Scored.select?]
    apply Scored.best?_perm
    · exact (hperm.map _).filter _
    · exact fun s hs => numbers q c _ s (List.mem_filter.mp hs).1
    · have hshuffled := (hperm.map (·.index)).nodup_iff.mpr hdistinct
      exact (nodup_indices hshuffled).sublist (List.filter_sublist.map _)
  exact ⟨hchosen, by rw [classify_kind, classify_kind, hchosen]⟩

/-- **The reported score is the largest score of a candidate**, whether one is chosen or not. -/
theorem score_classify (hne : candidates ≠ []) (hdistinct : (candidates.map (·.index)).Nodup) :
    Scored.IsLargest (candidates.map (q.score c)) (q.classify c candidates).score := by
  cases hchosen : (q.classify c candidates).chosen with
  | none =>
    rw [classify_score, hchosen]
    exact Scored.isLargest_largest (mt List.map_eq_nil_iff.mp hne) (numbers q c candidates)
  | some s =>
    have hmem : s.element ∈ candidates := (classify_chosen hchosen).1
    have hs := classify_eq_score hchosen
    rw [classify_score, hchosen]
    refine ⟨⟨s, hs ▸ List.mem_map_of_mem hmem, rfl⟩, List.forall_mem_map.mpr fun e he => ?_⟩
    by_cases hindex : e.index = s.element.index
    · obtain rfl := List.inj_on_of_nodup_map hdistinct he hmem hindex
      rw [← hs]
      exact hs ▸ number_clamp _
    · have hbefore := leads_of_chosen hdistinct hchosen e he hindex
      rw [← hs, Scored.before_eq_true] at hbefore
      rcases hbefore with hlt | ⟨hle, -⟩
      · exact le_of_lt hlt
      · exact (lt_eq_false (hs ▸ number_clamp _) (number_clamp _)).mp hle

/-- **The choice is free of order and monotone in the threshold.**  However the candidates are
listed, the same one is chosen; it is preferred to all others.  A higher threshold keeps the choice,
its label and its score, or there is none, and then the best score of all candidates, which is the
one reported, is below that threshold. -/
theorem choice_order_free_and_monotone (q : Lookup) (c : MatchingConfig α) {t₁ t₂ : α}
    (ht : le t₁ t₂ = true) {candidates : List Element} (hne : candidates ≠ [])
    (hdistinct : (candidates.map (·.index)).Nodup) :
    (∀ (t : α) (shuffled : List Element), shuffled.Perm candidates →
      (q.classify (c.withThreshold t) shuffled).chosen
          = (q.classify (c.withThreshold t) candidates).chosen ∧
        (q.classify (c.withThreshold t) shuffled).kind
          = (q.classify (c.withThreshold t) candidates).kind) ∧
    ((∃ s, (q.classify (c.withThreshold t₂) candidates).chosen = some s ∧
        (q.classify (c.withThreshold t₁) candidates).chosen = some s ∧
        (q.classify (c.withThreshold t₂) candidates).kind
          = (q.classify (c.withThreshold t₁) candidates).kind ∧
        (q.classify (c.withThreshold t₂) candidates).score
          = (q.classify (c.withThreshold t₁) candidates).score ∧
        s.element ∈ candidates ∧ q.Leads c candidates s.element) ∨
      ((q.classify (c.withThreshold t₂) candidates).chosen = none ∧
        lt (q.classify (c.withThreshold t₂) candidates).score t₂ = true ∧
        Scored.IsLargest (candidates.map (q.score c))
          (q.classify (c.withThreshold t₂) candidates).score)) := by
  refine ⟨fun t shuffled hperm => classify_perm hperm hdistinct, ?_⟩
  have hraise := q.classify_raise (c := c) ht candidates
  cases hhigh : (q.classify (c.withThreshold t₂) candidates).chosen with
  | some s =>
    rw [hhigh, eq_comm, Option.filter_eq_some_iff] at hraise
    have hlow := hraise.1
    have hleads : q.Leads c candidates s.element :=
      leads_of_chosen (c := c.withThreshold t₂) hdistinct hhigh
    refine .inl ⟨s, rfl, hlow, ?_, ?_, (classify_chosen hhigh).1, hleads⟩
    · rw [(classify_chosen hhigh).2.2, (classify_chosen hlow).2.2]
      rfl
    · rw [classify_score, classify_score, hhigh, hlow]
  | none =>
    have hlargest : Scored.IsLargest (candidates.map (q.score c))
        (q.classify (c.withThreshold t₂) candidates).score :=
      score_classify (c := c.withThreshold t₂) hne hdistinct
    refine .inr ⟨rfl, ?_, hlargest⟩
    obtain ⟨s, hs, hscore⟩ := hlargest.1
    rw [hscore]
    -- otherwise this one could have been chosen
    rw [classify_eq, Scored.select?_eq_none] at hhigh
    exact lt_of_not_reach (numbers q c _ s hs) (Ordered.number ht).2 (hhigh s hs)

/-! ### Two candidates that tie -/

/-- A renamed method between two methods of its earlier file that have one score and stand equally
far from it. -/
def halfway : Lookup where
  target := methodAt 0 "g" 3 none
  later := fileOf [methodAt 0 "g" 3 none]
  earlier := fileOf [methodAt 0 "f" 1 none, methodAt 1 "f" 5 none]

/-- The first one of the model is chosen in both orders, and with a threshold above the score of
both there is no choice. -/
theorem choice_order_free_and_monotone_halfway :
    le (0.5 : Float) 0.9 = true ∧
    (halfway.classify (MatchingConfig.standard.withThreshold 0.5)
        [methodAt 0 "f" 1 none, methodAt 1 "f" 5 none]).chosen.map (·.element.index) = some 0 ∧
    (halfway.classify (MatchingConfig.standard.withThreshold 0.5)
        [methodAt 1 "f" 5 none, methodAt 0 "f" 1 none]).chosen.map (·.element.index) = some 0 ∧
    (halfway.classify (MatchingConfig.standard.withThreshold 0.9)
        [methodAt 0 "f" 1 none, methodAt 1 "f" 5 none]).chosen.isNone = true ∧
    lt (halfway.classify (MatchingConfig.standard.withThreshold 0.9)
        [methodAt 0 "f" 1 none, methodAt 1 "f" 5 none]).score 0.9 = true := by
  have ht : le (0.5 : Float) 0.9 = true := by decide +kernel
  obtain ⟨horder, hthreshold⟩ := choice_order_free_and_monotone halfway MatchingConfig.standard ht
    (List.cons_ne_nil (methodAt 0 "f" 1 none) [methodAt 1 "f" 5 none]) (by decide)
  have hlow : (halfway.classify (MatchingConfig.standard.withThreshold 0.5)
      [methodAt 0 "f" 1 none, methodAt 1 "f" 5 none]).chosen.map (·.element.index) = some 0 := by
    decide +kernel
  have hhigh : (halfway.classify (MatchingConfig.standard.withThreshold 0.9)
      [methodAt 0 "f" 1 none, methodAt 1 "f" 5 none]).chosen.isNone = true := by
    decide +kernel
  refine ⟨ht, hlow, ?_, hhigh, ?_⟩
  · rw [(horder 0.5 _ (.swap ..)).1]
    exact hlow
  · rcases hthreshold with ⟨s, hs, -⟩ | ⟨-, hlt, -⟩
    · rw [hs] at hhigh
      cases hhigh
    · exact hlt

end Lookup
end Lineage
