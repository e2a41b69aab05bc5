import Lineage.History.Bound
import Lineage.History.Tracker
import Lineage.Proofs.History.Turns
import Lineage.Repository.Memory

/-! # Replaying a walk

The log of a walk is the list of the turns of its steps (`Walker.logOf`).  The log
alone determines the graph and the work list: a `Replay` goes through a log without the
world and the cache, and every history that is told is the end of a replay of the log of
its walk (`replay_of_history`).  So an invariant of a replay is one of every walk.  What also
depends on the world or the cache is said of the states that a walk goes through
(`Walker.Walked`).

The versions and changes of a replay are those that recording the matches of the log
gives, one after the other (`Replay.bare_eq`).
-/
namespace Lineage

/-! ### Logs -/

/-- What tells the version of an active branch from others. -/
def Active.key (a : Active) : VersionKey := ⟨a.commit.id, a.path, a.element.lines⟩

/-- The match that was found. -/
def Finding.match? {α : Type} : Finding α → Option (Match α)
  | .found m => some m
  | .failed _ | .absent => none

theorem Finding.mem_filterMap_match? {α : Type} {xs : List (Finding α)} {m : Match α} :
    m ∈ xs.filterMap Finding.match? ↔ .found m ∈ xs := by
  rw [List.mem_filterMap]
  constructor
  · rintro ⟨x, hx, hm⟩
    cases x <;> cases hm
    exact hx
  · exact fun h => ⟨_, h, rfl⟩

/-- The links to matches that were found for a version. -/
theorem Finding.mem_links {α : Type} {a : Active} {xs : List (Finding α)} {l : Active × Match α} :
    l ∈ (xs.filterMap Finding.match?).map (a, ·) ↔ a = l.1 ∧ .found l.2 ∈ xs := by
  rw [List.mem_map]
  constructor
  · rintro ⟨m, hm, rfl⟩
    exact ⟨rfl, Finding.mem_filterMap_match?.mp hm⟩
  · rintro ⟨rfl, hm⟩
    exact ⟨l.2, Finding.mem_filterMap_match?.mpr hm, rfl⟩

namespace Turn
variable {α : Type}

/-- The matches of a turn, each with the version that it was found for. -/
def links : Turn α → List (Active × Match α)
  | .fresh a xs | .followed a xs | .resolved a xs => (xs.filterMap Finding.match?).map (a, ·)
  | .ended _ | .cut | .lost _ _ | .postponed _ _ => []

/-- A turn concerns the first branch of the work list, and its findings fit it.  What a
move leads to is found or not there; it does not fail. -/
inductive Concerns : Branch → Turn α → Prop
  | ended (t : Termination) : Concerns (.terminated t) (.ended t)
  | cut (a : Active) : Concerns (.active a) .cut
  | lost (a : Active) (f : RepositoryFault) : Concerns (.active a) (.lost a f)
  | fresh {a : Active} {xs : List (Finding α)} (hfits : ∀ x ∈ xs, x.Fits a)
      (hmoves : ∀ x ∈ xs, ∃ moved, x = .ofMove moved) : Concerns (.active a) (.fresh a xs)
  | followed {a : Active} {xs : List (Finding α)} (hfits : ∀ x ∈ xs, x.Fits a) :
      Concerns (.active a) (.followed a xs)
  | postponed (a : Active) (vs : List ParentVersion) : Concerns (.active a) (.postponed a vs)
  | resolved {a : Active} {vs : List ParentVersion} {xs : List (Finding α)}
      (hfits : ∀ x ∈ xs, x.Fits a) : Concerns (.branching a vs) (.resolved a xs)

end Turn

/-! ### Runs without their ends -/

namespace Run
variable {α : Type} (r : Run α)

/-- The run that has only its seed. -/
def ofSeed (seed : Active) : Run α :=
  let r : Run α := ⟨seed.element.kind, [], [], [], false, {}⟩
  { r with nodes := [r.newNode seed.commit seed.path seed.element] }

/-- The versions and changes of a run alone. -/
def bare : Run α := { r with terminations := [], budgetExceeded := false, report := {} }

/-- The run after matches have been recorded one after the other. -/
def linkAll (ls : List (Active × Match α)) : Run α := ls.foldl (fun r l => r.link l.1 l.2) r

theorem bare_finish (t : Termination) : (r.finish t).bare = r.bare := by
  unfold finish
  split <;> rfl

theorem bare_foldl_finish (bs : List Branch) :
    (bs.foldl (fun r b => r.finish b.cut) r).bare = r.bare := by
  induction bs generalizing r with
  | nil => rfl
  | cons b bs ih => rw [List.foldl_cons, ih, bare_finish]

theorem absorbAll_eq (a : Active) (xs : List (Finding α)) :
    r.absorbAll a xs = r.linkAll ((xs.filterMap Finding.match?).map (a, ·)) := by
  induction xs generalizing r with
  | nil => rfl
  | cons x xs ih =>
    cases x with
    | found m => exact ih (r.link a m)
    | failed t => exact ih r
    | absent => exact ih r

theorem bare_linkAll (ls : List (Active × Match α)) : (r.linkAll ls).bare = r.bare.linkAll ls := by
  induction ls generalizing r with
  | nil => rfl
  | cons l ls ih => exact ih (r.link l.1 l.2)

/-- A turn changes versions and changes by its matches only. -/
theorem bare_after (first : Branch) (rest : List Branch) (turn : Turn α) :
    (r.after first rest turn).1.bare = r.bare.linkAll turn.links := by
  cases turn with
  | ended t => exact r.bare_finish t
  | cut => exact bare_foldl_finish { r with budgetExceeded := true } (first :: rest)
  | lost a f => rfl
  | postponed a vs => rfl
  | fresh a xs | followed a xs | resolved a xs =>
    show (r.absorbAll a xs).bare = _
    rw [absorbAll_eq, bare_linkAll]
    rfl

end Run

/-! ### Replays -/

variable {σ α : Type}

/-- The graph and the work list to which a log leads from a seed. -/
inductive Replay (seed : Active) : List (Turn α) → Run α → List Branch → Prop
  | seed (hseed : seed.node = 0) : Replay seed [] (.ofSeed seed) [.active seed]
  | turn {log : List (Turn α)} {r r' : Run α} {first : Branch} {rest work : List Branch}
      {turn : Turn α} (before : Replay seed log r (first :: rest)) (hturn : turn.Concerns first)
      (hafter : (r', work) = r.after first rest turn) : Replay seed (log ++ [turn]) r' work

/-- The versions and changes of a replay are made of the matches of its log. -/
theorem Replay.bare_eq {seed : Active} {log : List (Turn α)} {r : Run α} {work : List Branch}
    (h : Replay seed log r work) : r.bare = (Run.ofSeed seed).linkAll (log.flatMap Turn.links) := by
  induction h with
  | seed _ => rfl
  | @turn log r r' first rest work turn _ _ hafter ih =>
    have hr' : r' = (r.after first rest turn).1 := congrArg Prod.fst hafter
    rw [hr', Run.bare_after, ih, List.flatMap_append, List.flatMap_singleton]
    exact List.foldl_append.symm

/-- The kind of a replay is that of its seed. -/
theorem Replay.kind_eq {seed : Active} {log : List (Turn α)} {r : Run α} {work : List Branch}
    (h : Replay seed log r work) : r.kind = seed.element.kind := by
  have hlinks : ∀ (ls : List (Active × Match α)) (r : Run α), (r.linkAll ls).kind = r.kind := by
    intro ls
    induction ls with
    | nil => exact fun _ => rfl
    | cons l ls ih => exact fun r => ih (r.link l.1 l.2)
  show r.bare.kind = _
  rw [h.bare_eq]
  exact hlinks _ _

namespace Walker
open Walk
variable [Score α] (w : Walker σ α)

/-- The state after a walk has told that it starts. -/
def opening (seed : Active) (x : Session σ) : WalkState σ α :=
  (tell .info "history_started" [("commit", .text seed.commit.shortId), ("path", .text seed.path),
    ("element", .text seed.element.qualifiedName), ("kind", .text seed.element.kind.text)]
    ⟨x, .ofSeed seed⟩).2

/-- The log of at most `fuel` steps. -/
def log : Nat → List Branch → WalkState σ α → List (Turn α)
  | 0, [], _ | 0, _ :: _, _ | _ + 1, [], _ => []
  | fuel + 1, first :: rest, s =>
    w.turn first s :: match w.step first rest s with
      | (.ok work, s') => log fuel work s'
      | (.error _, _) => []

/-- The log of a walk from a seed. -/
def logOf (fuel : Nat) (seed : Active) (x : Session σ) : List (Turn α) :=
  w.log fuel [.active seed] (opening seed x)

/-- The matches of a walk from a seed, each with the version that it was found for. -/
def linksOf (fuel : Nat) (seed : Active) (x : Session σ) : List (Active × Match α) :=
  (w.logOf fuel seed x).flatMap Turn.links

theorem turn_concerns (first : Branch) (s : WalkState σ α) : (w.turn first s).Concerns first := by
  cases first with
  | terminated t => exact .ended t
  | branching a vs =>
    refine .resolved fun x hx => ?_
    obtain ⟨_, -, hfits, -⟩ := w.forall_findings a (w.yields_examine a) _ _ x hx
    exact hfits
  | active a =>
    rw [turn]
    split
    · exact .cut a
    · split
      · exact .lost a _
      · have hall := w.forall_findings a (w.yields_examineParent a)
        refine .fresh (fun x hx => ?_) fun x hx => ?_
        · obtain ⟨_, -, ⟨hfits, -⟩, -⟩ := hall _ _ x hx
          exact hfits
        · obtain ⟨_, -, ⟨-, hmoved⟩, -⟩ := hall _ _ x hx
          exact hmoved
      · refine .followed fun x hx => ?_
        obtain ⟨_, -, hfits, -⟩ := w.forall_findings a (w.yields_examine a) _ _ x hx
        exact hfits
      · exact .postponed a _
      · exact .cut a

/-- The states and work lists that a walk from a seed goes through, with its log so far. -/
inductive Walked (seed : Active) (x : Session σ) :
    List (Turn α) → WalkState σ α → List Branch → Prop
  | start : Walked seed x [] (opening seed x) [.active seed]
  | step {log : List (Turn α)} {s s' : WalkState σ α} {first : Branch} {rest work : List Branch}
      (before : Walked seed x log s (first :: rest))
      (hstep : w.step first rest s = (.ok work, s')) :
      Walked seed x (log ++ [w.turn first s]) s' work

variable {w}

/-- A walk replays its log. -/
theorem Walked.replay {seed : Active} {x : Session σ} {log : List (Turn α)} {s : WalkState σ α}
    {work : List Branch} (h : w.Walked seed x log s work) (hseed : seed.node = 0) :
    Replay seed log s.run.graph work := by
  induction h with
  | start => exact .seed hseed
  | step _ hstep ih => exact .turn ih (w.turn_concerns _ _) (w.step_turn hstep)

/-- The steps of a walk lengthen its log. -/
theorem Walked.steps {seed : Active} {x : Session σ} {fuel : Nat} {before : List (Turn α)}
    {s s' : WalkState σ α} {work left : List Branch} (hbefore : w.Walked seed x before s work)
    (h : w.steps fuel work s = (.ok left, s')) :
    w.Walked seed x (before ++ w.log fuel work s) s' left := by
  -- on the fuel: the log of the remaining steps is appended to the log so far
  induction fuel generalizing before s work with
  | zero =>
    cases work with
    | nil | cons _ _ =>
      obtain ⟨rfl, rfl⟩ := pure_ok h
      rwa [log, List.append_nil]
  | succ fuel ih =>
    cases work with
    | nil =>
      obtain ⟨rfl, rfl⟩ := pure_ok h
      rwa [log, List.append_nil]
    | cons first rest =>
      obtain ⟨work, s₁, hstep, hrest⟩ := bind_ok h
      have hnext := ih (hbefore.step hstep) hrest
      rw [List.append_assoc] at hnext
      rw [log, hstep]
      exact hnext

/-- Every history is what a walk holds that has no branch left. -/
theorem walked_of_history {fuel : Nat} {commit : Commit} {path : String} {m : Model}
    {e : Element} {x x' : Session σ} {h : History α}
    (hh : w.history fuel commit path m e x = (.ok h, x')) :
    ∃ s : WalkState σ α, h = s.run.toHistory ∧ w.Walked ⟨0, commit, path, m, e⟩ x
      (w.logOf fuel ⟨0, commit, path, m, e⟩ x) s [] := by
  unfold history at hh
  dsimp only at hh
  split at hh
  · rename_i final hwhole
    cases hh
    obtain ⟨_, s₀, htold, hwhole⟩ := bind_ok hwhole
    obtain ⟨left, s₁, hsteps, hwhole⟩ := bind_ok hwhole
    have hs₀ : s₀ = opening ⟨0, commit, path, m, e⟩ x := (congrArg Prod.snd htold).symm
    rw [hs₀] at hsteps
    have hwalked := Walked.start.steps hsteps
    split at hwhole
    · cases hwhole
    · rename_i hleft
      obtain rfl : left = [] := by simpa using hleft
      obtain ⟨s₂, s₃, hget, hwhole⟩ := bind_ok hwhole
      cases hget
      cases hwhole
      exact ⟨s₁, rfl, hwalked⟩
  · cases hh

/-- **Every history is the end of a replay** of the log of its walk. -/
theorem replay_of_history {fuel : Nat} {commit : Commit} {path : String} {m : Model}
    {e : Element} {x x' : Session σ} {h : History α}
    (hh : w.history fuel commit path m e x = (.ok h, x')) :
    ∃ s : WalkState σ α, h = s.run.toHistory ∧ Replay ⟨0, commit, path, m, e⟩
      (w.logOf fuel ⟨0, commit, path, m, e⟩ x) s.run.graph [] := by
  obtain ⟨s, hs, hwalked⟩ := walked_of_history hh
  exact ⟨s, hs, hwalked.replay rfl⟩

end Walker

/-! ### Trackers -/

namespace Tracker
variable {σ α : Type} [Score α] {t : Tracker σ α} {s s' : Session σ}

/-- The seed of the walk of a tracker, and the session in which the walk begins. -/
def start? (t : Tracker σ α) (s : Session σ) : Option (Active × Session σ) :=
  match t.seed? s with
  | (.ok (commit, some (m, e)), s₁) =>
    some (⟨0, commit, t.config.path, m, e⟩, (SessionM.tell .debug "seed_located"
      [("element", .text e.qualifiedName), ("lines", .text e.lines.text)] s₁).2)
  | _ => none

/-- The history that a tracker tells is that of a walk from its seed. -/
theorem history_of_track {h : History α} (ht : t.track s = (.ok h, s')) :
    ∃ commit m e x, t.start? s = some (⟨0, commit, t.config.path, m, e⟩, x) ∧
      t.walker.history t.steps commit t.config.path m e x = (.ok h, s') := by
  unfold track at ht
  unfold start?
  revert ht
  rcases t.seed? s with ⟨_ | ⟨commit, _ | ⟨m, e⟩⟩, s₁⟩
  · exact fun ht => nomatch ht
  · exact fun ht => nomatch ht
  · intro ht
    let x := (SessionM.tell .debug "seed_located" [("element", .text e.qualifiedName),
      ("lines", .text e.lines.text)] s₁).2
    refine ⟨commit, m, e, x, rfl, ?_⟩
    change ((t.walker.history t.steps commit t.config.path m e x).1.mapError TrackFault.stopped,
      (t.walker.history t.steps commit t.config.path m e x).2) = _ at ht
    rcases hwalk : t.walker.history t.steps commit t.config.path m e x with ⟨_ | h', s₂⟩
    · rw [hwalk] at ht
      cases ht
    · rw [hwalk] at ht
      cases ht
      rfl

/-- The matches of the walk of a tracker. -/
def links (t : Tracker σ α) (s : Session σ) : List (Active × Match α) :=
  match t.start? s with
  | some (seed, x) => t.walker.linksOf t.steps seed x
  | none => []

/-- The tracker tells a history, and it has a property. -/
def tells (t : Tracker σ α) (s : Session σ) (p : History α → Bool) : Bool :=
  match (t.track s).1 with
  | .ok h => p h
  | .error _ => false

theorem exists_of_tells {p : History α → Bool} (ht : t.tells s p = true) :
    ∃ h s', t.track s = (.ok h, s') ∧ p h = true := by
  unfold tells at ht
  split at ht
  · rename_i h hok
    exact ⟨h, (t.track s).2, Prod.ext hok rfl, ht⟩
  · cases ht

end Tracker

/-- A tracker that starts at the head of a stored commit graph, with the standard settings
but for the anchors of the tree matcher: no subtree is high enough to be one. -/
def Archive.tracker (a : Archive) (path : String) (locator : Locator) : Tracker Archive Float where
  config := ⟨"HEAD", path, locator⟩
  walker :=
    { repository := memory false
      build := Model.ofBytes fun _ => none
      matching := { MatchingConfig.standard with minAnchorHeight := 100 }
      config := {}
      shown := fun _ => .null
      cancelled := fun _ => false
      elapsed := fun _ => 0 }
  steps := a.stepBound 0

end Lineage
