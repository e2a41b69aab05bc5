import Lineage.Proofs.History.Steady

/-! # The versions before a version

In a repository that does not change, the versions before a version are a matter of the
version alone: the match that the rule for a parent version gives for one of its parent
versions, or, if it has none, a match in another file of one of its parents
(`Walker.Matches`).  `Walker.Successor` relates versions so, without a word about walks.

Versions are told apart by their keys if identifiers name commits and no two elements of
the kind share a range of lines (`Walker.TellsApart`); then each turn that examines a
version finds exactly the matches of that version (`exact_of_finds`), and what it finds
are versions of the same sort (`Matches.proper`).
-/
namespace Lineage
variable {σ α : Type}

/-- A version of an element, with the model that the element is part of. -/
structure Version where
  commit : Commit
  path : String
  model : Model
  element : Element

namespace Version

/-- The version as one whose parents are to be examined; its number does not matter. -/
def active (v : Version) : Active := ⟨0, v.commit, v.path, v.model, v.element⟩

/-- What tells the version from others. -/
def key (v : Version) : VersionKey := ⟨v.commit.id, v.path, v.element.lines⟩

end Version

/-- The version that is examined. -/
def Active.version (a : Active) : Version := ⟨a.commit, a.path, a.model, a.element⟩

/-- The version that was matched. -/
def Match.version (m : Match α) : Version := ⟨m.commit, m.path, m.model, m.element⟩

/-- The repository hands out the commit. -/
def Repository.HandsOut (r : Repository σ) (c : Commit) : Prop :=
  (∃ id, r.Resolves id c) ∨ ∃ id path v, r.Touches id path v ∧ v.commit = c

namespace Walker
open Walk

variable [Score α] (w : Walker σ α)

/-- The rule for a parent version: a match in its file, or, if the element is not there, one in
another file of the parent. -/
def Follows (u : Version) (v : ParentVersion) (m : Match α) : Prop :=
  Gives (w.matchIn u.active v.commit v.path) (.found m) ∨
    Gives (w.matchIn u.active v.commit v.path) .absent ∧
      Gives (w.followMove u.active v.viaParent) (some m)

/-- The matches of a version: those of the rule for its parent versions, or, if it has none, those
in other files of its parents. -/
def Matches (u : Version) (m : Match α) : Prop :=
  ∃ vs, Gives (w.previous u.commit.id u.path) vs ∧
    ((∃ v ∈ vs, w.Follows u v m) ∨
      vs = [] ∧ ∃ p ∈ u.commit.parentIds, Gives (w.followMove u.active p) (some m))

/-- A version before a version. -/
def Successor (u v : Version) : Prop := ∃ m, w.Matches u m ∧ m.version = v

/-- Identifiers name commits, and the elements of the kind of a version have different lines in
every model. -/
structure TellsApart (seed : Version) : Prop where
  commits : ∀ c c', c = seed.commit ∨ w.repository.HandsOut c →
    c' = seed.commit ∨ w.repository.HandsOut c' → c.id = c'.id → c = c'
  ranges : ∀ id path m, w.Builds id path (.model m) → ∀ e ∈ m.elements.toList,
    ∀ e' ∈ m.elements.toList, e.kind = seed.element.kind → e'.kind = seed.element.kind →
      e.lines = e'.lines → e = e'

/-- A version of the kind of the seed that the repository has. -/
structure Proper (seed v : Version) : Prop where
  commit : v.commit = seed.commit ∨ w.repository.HandsOut v.commit
  built : w.Builds v.commit.id v.path (.model v.model)
  element : v.element ∈ v.model.elements.toList
  kind : v.element.kind = seed.element.kind

variable {w} {seed u v : Version} {m : Match α}

/-! ### Keys -/

omit [Score α] in
theorem builds_unique (hr : w.repository.Steady) {id path : String} {m m' : CachedModel}
    (h : w.Builds id path m) (h' : w.Builds id path m') : m = m' := by
  obtain ⟨s, hs⟩ := h
  obtain ⟨s', hs'⟩ := h'
  exact Except.ok.inj (hs.symm.trans ((SessionM.buildModel_same hr s s').trans hs'))

omit [Score α] in
/-- Versions with one key are one version. -/
theorem Proper.eq_of_key (hr : w.repository.Steady) (hapart : w.TellsApart seed)
    (hu : w.Proper seed u) (hv : w.Proper seed v) (h : u.key = v.key) : u = v := by
  obtain ⟨c, path, model, e⟩ := u
  obtain ⟨c', path', model', e'⟩ := v
  obtain ⟨hid, hpath, hlines⟩ := VersionKey.mk.inj h
  obtain rfl : c = c' := hapart.commits _ _ hu.commit hv.commit hid
  obtain rfl : path = path' := hpath
  obtain rfl : model = model' := CachedModel.model.inj (builds_unique hr hu.built hv.built)
  obtain rfl : e = e' :=
    hapart.ranges _ _ _ hu.built _ hu.element _ hv.element hu.kind hv.kind hlines
  rfl

/-! ### The number of a version does not matter -/

theorem searchFiles_active (a : Active) (parent : Commit) (paths : List String)
    (best : Option (Match α)) :
    w.searchFiles a.version.active parent paths best = w.searchFiles a parent paths best := by
  induction paths generalizing best with
  | nil => rfl
  | cons path rest ih =>
    unfold searchFiles
    simp only [ih]
    rfl

theorem followMove_active (a : Active) (parentId : String) :
    w.followMove a.version.active parentId = w.followMove a parentId := by
  unfold followMove findMoved
  simp only [searchFiles_active]
  rfl

theorem matchIn_active (a : Active) (commit : Commit) (path : String) :
    w.matchIn a.version.active commit path = w.matchIn a commit path := rfl

theorem gives_examineParent (hr : w.repository.Steady) {a : Active} {p : String} :
    Gives (w.examineParent a p) (.found m) ↔ Gives (w.followMove a.version.active p) (some m) := by
  have hpure : ∀ moved : Option (Match α), Steady w.Remembers
      (pure (Finding.ofMove moved) : Walk σ α (Finding α)) fun _ => True :=
    fun _ => steady_pure trivial
  rw [followMove_active, examineParent, (w.steady_followMove hr a p).gives_bind
    (fun moved _ => hpure moved) remembers_empty]
  constructor
  · rintro ⟨moved, hmoved, hfound⟩
    rwa [Finding.ofMove_eq_found.mp hfound.of_pure.symm] at hmoved
  · exact fun h => ⟨some m, h, h.pure_after _⟩

/-- What examining a version finds in a parent version is what the rule gives. -/
theorem gives_examine (hr : w.repository.Steady) {a : Active} {v : ParentVersion} :
    Gives (w.examine a v) (.found m) ↔ w.Follows a.version v m := by
  have hmove : ∀ m, Gives (w.followMove a v.viaParent >>= fun moved => pure (Finding.ofMove moved))
      (.found m) ↔ Gives (w.followMove a.version.active v.viaParent) (some m) := fun m =>
    gives_examineParent hr
  rw [Follows, matchIn_active]
  unfold examine
  rw [(steady_attempt (w.steady_matchIn hr a v.commit v.path)).gives_bind (Q := fun _ => True) ?_
    remembers_empty]
  · constructor
    · rintro ⟨answer, hanswer, hfound⟩
      rcases answer with f | m' | _ | _
      · obtain ⟨s, -, hfailed⟩ := hfound
        cases hfailed
      · cases hfound.of_pure
        exact .inl (gives_attempt.mp hanswer)
      · exact .inr ⟨gives_attempt.mp hanswer, (hmove m).mp hfound⟩
      · exact nomatch hfound.of_pure
    · rintro (hfound | ⟨habsent, hmoved⟩)
      · exact ⟨_, gives_attempt.mpr hfound, hfound.pure_after _⟩
      · exact ⟨_, gives_attempt.mpr habsent, (hmove m).mpr hmoved⟩
  · intro answer _
    rcases answer with f | m' | _ | _
    · exact steady_bind (steady_tell _ _ _) fun _ _ => steady_pure trivial
    · exact steady_pure trivial
    · exact steady_bind (w.steady_followMove hr _ _) fun _ _ => steady_pure trivial
    · exact steady_pure trivial

/-! ### What turns find -/

/-- What a move leads to is a version that the repository has, of the kind of the one before. -/
theorem Proper.moved (hr : w.repository.Steady) (hu : w.Proper seed u) {p : String}
    (h : Gives (w.followMove u.active p) (some m)) : w.Proper seed m.version := by
  obtain ⟨parent, hresolved, hat⟩ := (w.yields_followMove u.active p).of_gives h m rfl
  have hbuilt := (w.steady_followMove hr u.active p).of_gives remembers_empty h m rfl
  have hcommit : w.repository.Resolves p m.commit := hat.commit ▸ hresolved
  exact ⟨.inr (.inl ⟨p, hcommit⟩), hbuilt, hat.element, hat.kind.trans hu.kind⟩

/-- **The matches of a version are versions of the same sort**: the repository has them, and they
are of the kind of the seed. -/
theorem Matches.proper (hr : w.repository.Steady) (hu : w.Proper seed u) (h : w.Matches u m) :
    w.Proper seed m.version := by
  obtain ⟨vs, hvs, ⟨v, hv, hfollows⟩ | ⟨-, p, -, hmoved⟩⟩ := h
  · rcases hfollows with hfound | ⟨-, hmoved⟩
    · have htouched := (yields_parentVersions w.repository _ _).of_gives hvs v hv
      have hat := (w.yields_matchIn u.active v.commit v.path).of_gives hfound m rfl
      have hbuilt := (w.steady_matchIn hr u.active v.commit v.path).of_gives remembers_empty
        hfound m rfl
      exact ⟨.inr (.inr ⟨_, _, v, htouched, hat.commit.symm⟩), hbuilt, hat.element,
        hat.kind.trans hu.kind⟩
    · exact hu.moved hr hmoved
  · exact hu.moved hr hmoved

omit [Score α] in
/-- Where looking gives one finding for each place, the findings are what looking gives. -/
theorem mem_of_gives {ι : Type} {look : ι → Walk σ α (Finding α)} {P : ι → Finding α → Prop}
    (hlook : ∀ i, Steady w.Remembers (look i) (P i)) {is : List ι} {xs : List (Finding α)}
    (h : List.Forall₂ (fun i x => Gives (look i) x) is xs) {x : Finding α} :
    x ∈ xs ↔ ∃ i ∈ is, Gives (look i) x := by
  induction h with
  | nil => simp
  | @cons i y is xs hy _ ih =>
    rw [List.mem_cons, ih, List.exists_mem_cons_iff]
    refine or_congr_left ⟨fun heq => heq ▸ hy, fun hx => ?_⟩
    exact (hlook i).gives_unique remembers_empty hx hy

/-- What is found for a version that has parent versions are its matches: the rule is followed for
each of them. -/
theorem found_iff_of_versions (hr : w.repository.Steady) {a : Active} {vs : List ParentVersion}
    {xs : List (Finding α)} (hvs : Gives (w.previous a.commit.id a.path) vs) (hsome : vs ≠ [])
    (hfound : List.Forall₂ (fun v x => Gives (w.examine a v) x) vs xs) :
    .found m ∈ xs ↔ w.Matches a.version m := by
  rw [mem_of_gives (w.steady_examine hr a) hfound]
  constructor
  · rintro ⟨v, hv, hm⟩
    exact ⟨vs, hvs, .inl ⟨v, hv, (gives_examine hr).mp hm⟩⟩
  · rintro ⟨vs', hvs', hrule⟩
    obtain rfl :=
      (w.steady_parentVersions hr a.commit.id a.path).gives_unique remembers_empty hvs hvs'
    rcases hrule with ⟨v, hv, hfollows⟩ | ⟨hnone, -⟩
    · exact ⟨v, hv, (gives_examine hr).mpr hfollows⟩
    · exact absurd hnone hsome

/-- What is found for a version that has none are its matches too: moves are followed from each
parent. -/
theorem found_iff_of_moves (hr : w.repository.Steady) {a : Active} {xs : List (Finding α)}
    (hvs : Gives (w.previous a.commit.id a.path) [])
    (hfound : List.Forall₂ (fun p x => Gives (w.examineParent a p) x) a.commit.parentIds xs) :
    .found m ∈ xs ↔ w.Matches a.version m := by
  rw [mem_of_gives (w.steady_examineParent hr a) hfound]
  simp only [gives_examineParent hr]
  constructor
  · exact fun hmoved => ⟨[], hvs, .inr ⟨rfl, hmoved⟩⟩
  · rintro ⟨vs, hvs', hrule⟩
    obtain rfl :=
      (w.steady_parentVersions hr a.commit.id a.path).gives_unique remembers_empty hvs hvs'
    rcases hrule with ⟨v, hv, -⟩ | ⟨-, hmoved⟩
    · cases hv
    · exact hmoved

/-- **A turn finds the matches of the version that it examines**, no more and no less. -/
theorem exact_of_finds (hr : w.repository.Steady) {first : Branch} {turn : Turn α} {a : Active}
    (hfinds : w.Finds first turn)
    (hfirst : ∀ a vs, first = .branching a vs →
      Gives (w.previous a.commit.id a.path) vs ∧ vs ≠ [])
    (ha : turn.origin? = some a) : (a, m) ∈ turn.links ↔ w.Matches a.version m := by
  have hlinks : ∀ {xs : List (Finding α)},
      (a, m) ∈ (xs.filterMap Finding.match?).map (a, ·) ↔ .found m ∈ xs :=
    Finding.mem_links.trans (and_iff_right rfl)
  cases hfinds with
  | ended | cut | postponed => cases ha
  | lost f hnone =>
    cases ha
    exact iff_of_false List.not_mem_nil fun ⟨vs, hvs, _⟩ => hnone vs hvs
  | fresh hvs hfound =>
    cases ha
    exact hlinks.trans (found_iff_of_moves hr hvs hfound)
  | followed hvs hfound =>
    cases ha
    exact hlinks.trans (found_iff_of_versions hr hvs (List.cons_ne_nil _ _) hfound)
  | resolved hfound =>
    cases ha
    obtain ⟨hvs, hsome⟩ := hfirst a _ rfl
    exact hlinks.trans (found_iff_of_versions hr hvs hsome hfound)

/-! ### Walks -/

variable (w seed) in
/-- An open branch is a version of the sort of the seed, with its parent versions if they wait. -/
def ProperBranch : Branch → Prop
  | .active a => w.Proper seed a.version
  | .branching a vs =>
    w.Proper seed a.version ∧ Gives (w.previous a.commit.id a.path) vs ∧ vs ≠ []
  | .terminated _ => True

variable (w seed) in
/-- A turn finds the matches of the version that it examines, or the budget is used up. -/
structure ExactTurn (turn : Turn α) : Prop where
  proper : ∀ a, turn.origin? = some a → w.Proper seed a.version
  exact : ∀ a m, turn.origin? = some a → ((a, m) ∈ turn.links ↔ w.Matches a.version m)
  postponed : ∀ a vs, turn = .postponed a vs → w.ProperBranch seed (.branching a vs)
  going : turn = .cut → ∃ s, w.outOfBudget s = true

theorem exactTurn (hr : w.repository.Steady) {first : Branch} {turn : Turn α}
    (hfinds : w.Finds first turn) (hfirst : w.ProperBranch seed first) :
    w.ExactTurn seed turn where
  proper := by
    intro a ha
    cases hfinds with
    | ended | cut | postponed => cases ha
    | lost | fresh | followed =>
      cases ha
      exact hfirst
    | resolved =>
      cases ha
      exact hfirst.1
  exact := by
    intro a m ha
    refine exact_of_finds hr hfinds (fun b vs hb => ?_) ha
    rw [hb] at hfirst
    exact hfirst.2
  postponed := by
    rintro a vs rfl
    cases hfinds with
    | postponed hvs hsome => exact ⟨hfirst, hvs, hsome⟩
  going := by
    rintro rfl
    cases hfinds with
    | cut hbudget => exact ⟨_, hbudget⟩

/-- **Every turn of a walk is exact.** -/
theorem Walked.exact (hr : w.repository.Steady) {start : Active}
    (hstart : w.Proper seed start.version) {x : Session σ} (hx : w.Remembers x.cache)
    {log : List (Turn α)} {s : WalkState σ α} {work : List Branch}
    (h : w.Walked start x log s work) : ∀ turn ∈ log, w.ExactTurn seed turn := by
  have hall : (∀ b ∈ work, w.ProperBranch seed b) ∧ ∀ turn ∈ log, w.ExactTurn seed turn := by
    refine h.forall_turns hstart (fun _ => trivial) ?_ ?_ ?_
    · intro log s s' first rest work hwalked hstep hfirst
      have hs := hwalked.remembers hr hx
      exact exactTurn hr (finds_of_step hr hs hstep).1 hfirst
    · exact fun a vs hturn => hturn.postponed a vs rfl
    · intro turn hturn l hl node
      have hl' := (hturn.exact l.1 l.2 (Turn.origin_of_mem_links hl)).mp hl
      exact hl'.proper hr (hturn.proper l.1 (Turn.origin_of_mem_links hl))
  exact hall.2

end Walker
end Lineage
