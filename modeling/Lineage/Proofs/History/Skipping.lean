import Lineage.Proofs.History.Actions
import Lineage.Proofs.History.Steady
import Lineage.Proofs.Repository.Fixed
import Lineage.Proofs.Source.Standing
import Lineage.Proofs.Matching.Threshold
import Lineage.Proofs.Matching.Tiers

/-! # Rejected candidates may be left out

A candidate that one tier finds is often found by the next one, too.  A search through the tiers
remembers the places of the candidates that it has rejected, leaves them out of later tiers, does
not classify a tier of which nothing is left, and ends early after a tier that goes by names.

The plain rule does nothing of that (`Lookup.plainSearch`): it classifies all candidates of the
first tier among which one reaches the threshold.  Both come to the same result, because only
candidates that reach the threshold are chosen from.  What the search carries along is that no
element at a remembered place reaches it (`Lookup.Rejects`); so leaving them out changes no choice
(`Lookup.classify_filter`), as long as each element of the model stands at its index, as it does
in every model of a file that has been read (`Walker.indexed_of_modelOf`).
-/
namespace Lineage

namespace Lookup
variable {α : Type} [Score α]

/-! ### The plain rule -/

/-- The tiers that count: all of them, or the first one alone if it goes by names. -/
def consulted : List Found → List Found
  | [] => []
  | found :: rest => if found.tier.rank ≤ Tier.name.rank then [found] else found :: rest

/-- The score of a candidate reaches the threshold. -/
def accepts (q : Lookup) (c : MatchingConfig α) (e : Element) : Bool :=
  (q.score c e).reaches c.threshold

/-- The classification of the first tier with a candidate that reaches the threshold. -/
def firstAccepted? (q : Lookup) (c : MatchingConfig α) (founds : List Found) :
    Option (Tier × Scored α × ChangeKind) :=
  (founds.find? fun found => found.elements.any (q.accepts c)).bind fun found =>
    let result := q.classify c found.elements
    result.chosen.map fun s => (found.tier, s, result.kind)

/-- The plain rule: the tiers with candidates in order, and nothing left out. -/
def plainSearch (q : Lookup) (c : MatchingConfig α) : Option (Tier × Scored α × ChangeKind) :=
  q.firstAccepted? c (consulted (q.candidateTiers (some c.matcher) c.maxAstCandidates.toNat))

/-! ### Classifications -/

variable {q : Lookup} {c : MatchingConfig α} {es : List Element}

theorem classify_chosen_eq_none :
    (q.classify c es).chosen = none ↔ ∀ e ∈ es, q.accepts c e = false := by
  rw [classify_eq, Scored.select?_eq_none, List.forall_mem_map]
  rfl

/-- Candidates that do not reach the threshold may be left out. -/
theorem classify_filter {p : Element → Bool} (hp : ∀ e ∈ es, p e = false → q.accepts c e = false) :
    (q.classify c (es.filter p)).chosen = (q.classify c es).chosen ∧
      (q.classify c (es.filter p)).kind = (q.classify c es).kind := by
  have hreach : (es.filter p).filter (q.accepts c) = es.filter (q.accepts c) := by
    rw [List.filter_filter]
    refine List.filter_congr fun e he => ?_
    rcases hpe : p e with _ | _
    · rw [hp e he hpe]
      rfl
    · rw [Bool.and_true]
  have hselect : ∀ l : List Element, (q.classify c l).chosen
      = Scored.best? ((l.filter (q.accepts c)).map (q.score c)) := by
    intro l
    rw [classify_eq, Scored.select?, List.filter_map]
    rfl
  have hchosen : (q.classify c (es.filter p)).chosen = (q.classify c es).chosen := by
    rw [hselect, hselect, hreach]
  exact ⟨hchosen, by rw [classify_kind, classify_kind, hchosen]⟩

theorem firstAccepted?_cons (found : Found) (rest : List Found) :
    q.firstAccepted? c (found :: rest) = match (q.classify c found.elements).chosen with
      | none => q.firstAccepted? c rest
      | some s => some (found.tier, s, (q.classify c found.elements).kind) := by
  have hany : found.elements.any (q.accepts c) = (q.classify c found.elements).chosen.isSome := by
    rw [Bool.eq_iff_iff, ← not_iff_not, Bool.not_eq_true, Bool.not_eq_true,
      Option.isSome_eq_false_iff, Option.isNone_iff_eq_none, classify_chosen_eq_none,
      List.any_eq_false]
    simp only [Bool.not_eq_true]
  unfold firstAccepted?
  rcases hchosen : (q.classify c found.elements).chosen with _ | s
  · rw [List.find?_cons_of_neg (by rw [hany, hchosen]; exact Bool.false_ne_true)]
  · rw [List.find?_cons_of_pos (by rw [hany, hchosen]; rfl), Option.bind_some]
    dsimp only
    rw [hchosen]
    rfl

/-! ### The search -/

/-- No element at one of these places reaches the threshold. -/
def Rejects (q : Lookup) (c : MatchingConfig α) (places : List Nat) : Prop :=
  ∀ e ∈ q.sameKind, e.index ∈ places → q.accepts c e = false

theorem Rejects.nil : q.Rejects c [] := fun _ _ h => absurd h List.not_mem_nil

theorem Rejects.append {places : List Nat} (h : q.Rejects c places) (hindexed : q.earlier.Indexed)
    (hes : es ⊆ q.sameKind) (hnone : (q.classify c es).chosen = none) :
    q.Rejects c (places ++ es.map (·.index)) := by
  intro e he hplace
  rcases List.mem_append.mp hplace with hplace | hplace
  · exact h e he hplace
  · obtain ⟨e', he', heq⟩ := List.mem_map.mp hplace
    obtain rfl :=
      hindexed.eq_of_index (mem_sameKind (hes he')).1 (mem_sameKind he).1 heq
    exact classify_chosen_eq_none.mp hnone e' he'

/-- A classification without the candidates at the rejected places. -/
theorem Rejects.classify {places : List Nat} (h : q.Rejects c places) (hes : es ⊆ q.sameKind) :
    (q.classify c (es.filter fun e => !places.contains e.index)).chosen
        = (q.classify c es).chosen ∧
      (q.classify c (es.filter fun e => !places.contains e.index)).kind
        = (q.classify c es).kind := by
  refine classify_filter fun e he hplace => h e (hes he) ?_
  rwa [Bool.not_eq_false', List.contains_iff_mem] at hplace

omit [Score α] in
theorem accepted?_ofRejected (places : List Nat) (best : α) :
    (TierSearch.ofRejected places best : TierSearch α).accepted? = none := by
  unfold TierSearch.ofRejected
  split <;> rfl

/-- The candidates of some tiers, without the tiers that have none. -/
def yielded (q : Lookup) (c : MatchingConfig α) (tiers : List Tier) : List Found :=
  (tiers.map (q.inTier (some c.matcher) c.maxAstCandidates.toNat)).filter
    fun found => !found.elements.isEmpty

theorem yielded_cons (tier : Tier) (rest : List Tier) : q.yielded c (tier :: rest) =
    let found := q.inTier (some c.matcher) c.maxAstCandidates.toNat tier
    if found.elements.isEmpty then q.yielded c rest else found :: q.yielded c rest := by
  unfold yielded
  rw [List.map_cons, List.filter_cons]
  dsimp only
  split <;> split <;> simp_all

/-- All tiers count if none of them goes by names. -/
theorem consulted_yielded {tiers : List Tier} (htiers : ∀ t ∈ tiers, ¬ t.rank ≤ Tier.name.rank) :
    consulted (q.yielded c tiers) = q.yielded c tiers := by
  rcases hfounds : q.yielded c tiers with _ | ⟨found, rest⟩
  · rfl
  · have hmem : found ∈ q.yielded c tiers := hfounds ▸ List.mem_cons_self
    obtain ⟨tier, htier, rfl⟩ := List.mem_map.mp (List.mem_filter.mp hmem).1
    rw [consulted, inTier_tier, if_neg (htiers tier htier)]

/-- Tiers without candidates are passed over. -/
theorem searchFrom_empty {tier : Tier}
    (hempty : (q.inTier (some c.matcher) c.maxAstCandidates.toNat tier).elements.isEmpty = true)
    (rest : List Tier) (places : List Nat) (best : α) :
    q.searchFrom c (tier :: rest) places best = q.searchFrom c rest places best := by
  rw [searchFrom]
  exact if_pos hempty

/-- Nothing has been rejected before the first tier with candidates, and one that goes by names ends
the search. -/
theorem searchFrom_decisive {tier : Tier} (htier : tier.rank ≤ Tier.name.rank)
    (hfound : (q.inTier (some c.matcher) c.maxAstCandidates.toNat tier).elements.isEmpty = false)
    (rest : List Tier) (best : α) : (q.searchFrom c (tier :: rest) [] best).accepted?
      = q.firstAccepted? c [q.inTier (some c.matcher) c.maxAstCandidates.toNat tier] := by
  have hall : ∀ es : List Element, es.filter (fun e => !List.contains [] e.index) = es :=
    fun es => List.filter_eq_self.mpr fun _ _ => rfl
  rw [searchFrom, firstAccepted?_cons, inTier_tier]
  dsimp only
  rw [if_neg (Bool.eq_false_iff.mp hfound), hall, if_neg (Bool.eq_false_iff.mp hfound)]
  split
  · rename_i s hchosen
    rw [hchosen]
    rfl
  · rename_i hchosen
    rw [hchosen, if_pos htier]
    exact accepted?_ofRejected _ _

/-- Through tiers that do not go by names the search follows the plain rule. -/
theorem searchFrom_later (hindexed : q.earlier.Indexed) {tiers : List Tier}
    (htiers : ∀ t ∈ tiers, ¬ t.rank ≤ Tier.name.rank) {places : List Nat}
    (hplaces : q.Rejects c places) (best : α) :
    (q.searchFrom c tiers places best).accepted? = q.firstAccepted? c (q.yielded c tiers) := by
  induction tiers generalizing places best with
  | nil => exact accepted?_ofRejected _ _
  | cons tier rest ih =>
    have hrest := fun t ht => htiers t (List.mem_cons_of_mem _ ht)
    rw [yielded_cons]
    dsimp only
    split
    · rename_i hempty
      rw [searchFrom_empty hempty]
      exact ih hrest hplaces best
    rename_i hfound
    obtain ⟨hchosen, hkind⟩ := hplaces.classify
      (inTier_subset : (q.inTier (some c.matcher) c.maxAstCandidates.toNat tier).elements ⊆ _)
    rw [searchFrom, firstAccepted?_cons, inTier_tier, ← hchosen, ← hkind]
    dsimp only
    rw [if_neg hfound]
    generalize hes : (q.inTier (some c.matcher) c.maxAstCandidates.toNat tier).elements.filter
      (fun e => !places.contains e.index) = es
    have hsub : es ⊆ q.sameKind := hes ▸ List.Subset.trans List.filter_sublist.subset inTier_subset
    split
    · -- nothing is left of the tier
      rename_i hempty
      rw [if_neg (htiers tier List.mem_cons_self), List.isEmpty_iff.mp hempty]
      exact ih hrest hplaces best
    · rcases hresult : (q.classify c es).chosen with _ | s
      · dsimp only
        rw [if_neg (htiers tier List.mem_cons_self)]
        exact ih hrest (hplaces.append hindexed hsub hresult) _
      · rfl

/-- **The search comes to the result of the plain rule.** -/
theorem search_eq_plain (hindexed : q.earlier.Indexed) :
    (q.search c).accepted? = q.plainSearch c := by
  show (q.searchFrom c Tier.all [] Score.zero).accepted?
    = q.firstAccepted? c (consulted (q.yielded c Tier.all))
  -- one of the two tiers that go by names has candidates, or none of them
  rw [Tier.all, yielded_cons]
  dsimp only
  split
  · rename_i hexact
    rw [searchFrom_empty hexact, yielded_cons]
    dsimp only
    split
    · rename_i hname
      have hlater : ∀ t ∈ [Tier.container, .containment, .wholeFile],
          ¬ t.rank ≤ Tier.name.rank := by decide
      rw [searchFrom_empty hname, consulted_yielded hlater]
      exact searchFrom_later hindexed hlater Rejects.nil _
    · rename_i hname
      rw [consulted, inTier_tier, if_pos (Nat.le_refl _)]
      exact searchFrom_decisive (Nat.le_refl _) (Bool.eq_false_iff.mpr hname) _ _
  · rename_i hexact
    rw [consulted, inTier_tier, if_pos (by decide)]
    exact searchFrom_decisive (by decide) (Bool.eq_false_iff.mpr hexact) _ _

end Lookup

/-! ### Looking into a version of a file -/

namespace Walker
open Walk
variable {σ α : Type} [Score α]

omit [Score α] in
/-- Models of files that have been read have their elements at their indices, whether they are built
or taken from the cache. -/
theorem indexed_of_modelOf {w : Walker σ α} {named? : List Char → Option Nat}
    (hbuild : w.build = Model.ofBytes named?) {s : WalkState σ α}
    (hs : w.Remembers s.session.cache) {id path : String} {m : Model}
    (h : (w.modelOf id path s).1 = .ok (.model m)) : m.Indexed := by
  obtain ⟨s', hbuilt⟩ : ∃ s', (SessionM.modelOf w.repository w.build id path s.session).1 = _ :=
    modelOf_outcome hs
  rw [(w.modelOf_session id path s).1, hbuilt] at h
  obtain ⟨bytes, -, hread⟩ := SessionM.buildModel_ok h
  rw [hbuild] at hread
  exact Model.ofBytes_indexed hread

/-- The earlier version of an element in a file at a commit, by the plain rule. -/
def plainMatchIn (w : Walker σ α) (origin : Active) (commit : Commit) (path : String) :
    Walk σ α (MatchResult α) := do
  match ← w.modelOf commit.id path with
  | .unparseable => return .unparseable
  | .model earlier =>
    match (Lookup.mk origin.element origin.model earlier).plainSearch w.matching with
    | none => return .absent
    | some (tier, s, kind) =>
      Walk.onRun (Run.onReport (·.countTier tier))
      return .found ⟨commit, path, earlier, s.element, kind, s.score⟩

/-- **Leaving out rejected candidates changes no match.**  Looking into a version of a file comes to
the result of the plain rule, and counts the same tier; all that it does besides is to tell an event
where every candidate was rejected. -/
theorem matchIn_eq_plain (w : Walker σ α) (origin : Active) (commit : Commit) (path : String)
    (s : WalkState σ α)
    (hindexed : ∀ earlier, (w.modelOf commit.id path s).1 = .ok (.model earlier) →
      earlier.Indexed) :
    (w.matchIn origin commit path s).1 = (w.plainMatchIn origin commit path s).1 ∧
      (w.matchIn origin commit path s).2.run = (w.plainMatchIn origin commit path s).2.run ∧
      (w.matchIn origin commit path s).2.session.world
        = (w.plainMatchIn origin commit path s).2.session.world ∧
      (w.matchIn origin commit path s).2.session.cache
        = (w.plainMatchIn origin commit path s).2.session.cache := by
  unfold matchIn plainMatchIn
  rcases hmodel : (w.modelOf commit.id path s).1 with stop | earlier | _
  · rw [bind_of_error hmodel, bind_of_error hmodel]
    exact ⟨rfl, rfl, rfl, rfl⟩
  · rw [bind_of_ok hmodel, bind_of_ok hmodel]
    have hsearch := Lookup.search_eq_plain (q := ⟨origin.element, origin.model, earlier⟩)
      (c := w.matching) (hindexed earlier hmodel)
    dsimp only
    rw [← hsearch]
    rcases (Lookup.mk origin.element origin.model earlier).search w.matching with _ | _ | _ <;>
      exact ⟨rfl, rfl, rfl, rfl⟩
  · rw [bind_of_ok hmodel, bind_of_ok hmodel]
    exact ⟨rfl, rfl, rfl, rfl⟩

end Walker

/-- A method was renamed with its class, and another method of the new name gave way to it. -/
def namesake : Archive :=
  { commits := [
      { id := "r", committed := 1,
        files := [("x.py", "class B:\n def f(): pass\nclass C:\n def h(a): a\n".toUTF8.toList)] },
      { id := "m", parents := ["r"], committed := 2,
        files := [("x.py", "class A:\n def f(a):\n\n  a\n".toUTF8.toList)] }]
    head := "m" }

/-- The tracker of the method. -/
def namesakeTracker : Tracker Unit Float := namesake.fixedTracker "x.py" (.methodAt "f" 2)

/-- Looks for the seed of a tracker in a version of its file, and tests what is known of that
version and of the match in it. -/
def Tracker.looks (t : Tracker Unit Float) (commit : Commit)
    (p : Active → Model → Match Float → Bool) : Bool :=
  match t.start? ⟨(), {}, []⟩ with
  | none => false
  | some (origin, x) =>
    let s : WalkState Unit Float := ⟨x, { kind := origin.element.kind }⟩
    match (t.walker.modelOf commit.id origin.path s).1,
      (t.walker.matchIn origin commit origin.path s).1 with
    | .ok (.model earlier), .ok (.found m) => p origin earlier m
    | _, _ => false

theorem Tracker.exists_of_looks {t : Tracker Unit Float} {commit : Commit}
    {p : Active → Model → Match Float → Bool} (h : t.looks commit p = true) :
    ∃ origin s earlier m, (t.walker.modelOf commit.id origin.path s).1 = .ok (.model earlier) ∧
      (t.walker.matchIn origin commit origin.path s).1 = .ok (.found m) ∧
      p origin earlier m = true := by
  unfold looks at h
  split at h
  · cases h
  · dsimp only at h
    split at h
    · rename_i hmodel hmatch
      exact ⟨_, _, _, _, hmodel, hmatch, h⟩
    · cases h

/-- The tiers that do not compare whole files, with the names of their candidates. -/
def Lookup.offers (q : Lookup) : List (Tier × List String) :=
  (q.candidateTiers (none : Option (Matcher Float)) 0).map fun found =>
    (found.tier, found.elements.map (·.qualifiedName))

theorem namesake_looks : namesakeTracker.looks (Archive.plainCommit { id := "r" })
    (fun origin earlier m => earlier.Indexed ∧ m.element.qualifiedName = "C.h" ∧
      (Lookup.mk origin.element origin.model earlier).offers
        = [(.container, ["B.f"]), (.containment, ["B.f", "C.h"])]) = true := by
  decide +kernel

/-- Two tiers find the method of the same name, and the second one the renamed method as well. -/
theorem matchIn_eq_plain_namesake : ∃ origin commit s earlier m,
    (namesakeTracker.walker.modelOf commit.id origin.path s).1 = .ok (.model earlier) ∧
    earlier.Indexed ∧
    (Lookup.mk origin.element origin.model earlier).offers
      = [(.container, ["B.f"]), (.containment, ["B.f", "C.h"])] ∧
    m.element.qualifiedName = "C.h" ∧
    (namesakeTracker.walker.matchIn origin commit origin.path s).1 = .ok (.found m) ∧
    (namesakeTracker.walker.plainMatchIn origin commit origin.path s).1 = .ok (.found m) := by
  obtain ⟨origin, s, earlier, m, hmodel, hmatch, hfacts⟩ := Tracker.exists_of_looks namesake_looks
  obtain ⟨hindexed, hname, hoffers⟩ := of_decide_eq_true hfacts
  have hplain := (Walker.matchIn_eq_plain namesakeTracker.walker origin _ origin.path s
    fun earlier' hmodel' => by
      rw [hmodel] at hmodel'
      cases hmodel'
      exact hindexed).1
  exact ⟨origin, _, s, earlier, m, hmodel, hindexed, hoffers, hname, hmatch,
    hplain.symm.trans hmatch⟩

end Lineage
