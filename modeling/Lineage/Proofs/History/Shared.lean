import Lineage.Proofs.History.Alike
import Lineage.Proofs.History.Reachable

/-! # A cache that is shared

Trackers of one repository may share a cache.  A cache that was only used to look up models, to
tell histories and to be cleared (`Walker.Used`) holds what building gives, also after walks
that stopped half way (`Used.remembers`).  So it cannot be told from an empty one: a walk that
begins with it tells the history that it tells with the empty cache, up to the counters of
the report, and each of several trackers that run one after the other tells what it tells
alone (`shared_cache_transparent`).
-/
namespace Lineage
variable {σ τ α : Type}

/-- The caches that are left by looking up models, clearing, and telling histories of any elements
with any settings, whether these uses succeed or not. -/
inductive Walker.Used (w : Walker σ α) : Cache → Prop
  | empty : w.Used {}
  | modelOf {s : Session σ} (before : w.Used s.cache) (id path : String) :
      w.Used (SessionM.modelOf w.repository w.build id path s).2.cache
  | clear {c : Cache} (before : w.Used c) : w.Used c.clear
  | history {β : Type} [Score β] {w' : Walker σ β} (hshares : w.Shares w') {s : Session σ}
      (before : w.Used s.cache) (fuel : Nat) (commit : Commit) (path : String) (m : Model)
      (e : Element) : w.Used (w'.history fuel commit path m e s).2.cache

namespace Walker
variable {β : Type} {w : Walker σ α} {w' : Walker σ β} {c : Cache}

/-- **No use spoils a cache.** -/
theorem Used.remembers (hr : w.repository.Steady) (h : w.Used c) : w.Remembers c := by
  induction h with
  | empty => exact remembers_empty
  | modelOf _ id path ih => exact (modelOf_remembers hr ih).2
  | clear _ ih => exact ⟨ih.idle, fun _ _ _ hm => nomatch hm⟩
  | history hshares _ fuel commit path m e ih =>
    exact hshares.remembers_iff.mp
      (remembers_history (hshares.steady hr) (hshares.remembers_iff.mpr ih))

end Walker

namespace Tracker
open Walk Walker
variable {t : Tracker σ α} {x y : Session σ}

/-- Where a tracker starts does not depend on the session. -/
theorem seed_same (hr : t.walker.repository.Steady) (hx : t.walker.Remembers x.cache)
    (hy : t.walker.Remembers y.cache) :
    (t.seed? x).1 = (t.seed? y).1 ∧ t.walker.Remembers (t.seed? x).2.cache := by
  have hcommit : (SessionM.ask (t.walker.repository.resolve t.config.startCommit) x).1
      = (SessionM.ask (t.walker.repository.resolve t.config.startCommit) y).1 :=
    congrArg (Except.mapError SessionM.stopOf) (hr.resolve _ x.world y.world)
  unfold seed?
  rcases hasked : (SessionM.ask (t.walker.repository.resolve t.config.startCommit) x).1
    with stop | commit
  · rw [bind_of_error hasked, bind_of_error (hcommit.symm.trans hasked)]
    exact ⟨rfl, hx⟩
  rw [bind_of_ok hasked, bind_of_ok (hcommit.symm.trans hasked)]
  let x₁ := (SessionM.ask (t.walker.repository.resolve t.config.startCommit) x).2
  let y₁ := (SessionM.ask (t.walker.repository.resolve t.config.startCommit) y).2
  let model := SessionM.modelOf t.walker.repository t.walker.build commit.id t.config.path
  let built := SessionM.buildModel t.walker.repository t.walker.build commit.id t.config.path
  obtain ⟨hbuilt, hkept⟩ : (model x₁).1 = (built x₁).1 ∧ t.walker.Remembers (model x₁).2.cache :=
    modelOf_remembers hr hx
  have hbuilt' : (model y₁).1 = (built y₁).1 := (modelOf_remembers (s := y₁) hr hy).1
  have hmodel : (model x₁).1 = (model y₁).1 :=
    hbuilt.trans ((SessionM.buildModel_same hr x₁ y₁).trans hbuilt'.symm)
  rcases hcached : (model x₁).1 with stop | m | _
  · rw [bind_of_error hcached, bind_of_error (hmodel.symm.trans hcached)]
    exact ⟨rfl, hkept⟩
  · rw [bind_of_ok hcached, bind_of_ok (hmodel.symm.trans hcached)]
    exact ⟨rfl, hkept⟩
  · rw [bind_of_ok hcached, bind_of_ok (hmodel.symm.trans hcached)]
    exact ⟨rfl, hkept⟩

variable [Score α]

/-- Tracking an element is a use of the cache, whatever comes of it. -/
theorem used_track {w : Walker σ α} (hshares : w.Shares t.walker) (hx : w.Used x.cache) :
    w.Used (t.track x).2.cache := by
  have hseed : w.Used (t.seed? x).2.cache := by
    unfold seed?
    rcases hasked : (SessionM.ask (t.walker.repository.resolve t.config.startCommit) x).1
      with stop | commit
    · rw [bind_of_error hasked]
      exact hx
    rw [bind_of_ok hasked]
    let x₁ := (SessionM.ask (t.walker.repository.resolve t.config.startCommit) x).2
    let model := SessionM.modelOf t.walker.repository t.walker.build commit.id t.config.path
    have hused : w.Used (model x₁).2.cache := by
      show w.Used (SessionM.modelOf t.walker.repository t.walker.build commit.id t.config.path
        x₁).2.cache
      rw [hshares.repository, hshares.build]
      exact .modelOf (s := x₁) hx commit.id t.config.path
    rcases hcached : (model x₁).1 with stop | m | _
    · rw [bind_of_error hcached]
      exact hused
    · rw [bind_of_ok hcached]
      exact hused
    · rw [bind_of_ok hcached]
      exact hused
  unfold track
  revert hseed
  rcases t.seed? x with ⟨stop | ⟨commit, _ | ⟨m, e⟩⟩, x₁⟩ <;> intro hseed
  · exact hseed
  · exact hseed
  · exact .history hshares (s := (SessionM.tell .debug "seed_located"
      [("element", .text e.qualifiedName), ("lines", .text e.lines.text)] x₁).2) hseed
      t.steps commit t.config.path m e

theorem used_trackEach {w : Walker σ α} {ts : List (Tracker σ α)}
    (hts : ∀ t ∈ ts, w.Shares t.walker) (hx : w.Used x.cache) :
    w.Used (trackEach ts x).2.cache := by
  induction ts generalizing x with
  | nil => exact hx
  | cons t ts ih =>
    have hnext := used_track (hts t List.mem_cons_self) hx
    replace ih := fun {x : Session σ} => ih (x := x) fun t ht => hts t (List.mem_cons_of_mem _ ht)
    unfold trackEach
    revert hnext
    rcases t.track x with ⟨fault | h, x₁⟩ <;> intro hnext
    · exact ih (x := (SessionM.tell _ _ _ x₁).2) hnext
    · exact ih hnext

/-- A tracker that nothing stops from outside tells one history in all sessions, and keeps the cache
right. -/
theorem track_same (hr : t.walker.repository.Steady) (hw : t.walker.TimedBy fun _ => ())
    (hx : t.walker.Remembers x.cache) (hy : t.walker.Remembers y.cache) :
    (t.track x).1.map History.graph = (t.track y).1.map History.graph ∧
      t.walker.Remembers (t.track x).2.cache := by
  obtain ⟨hsame, hx₁⟩ := seed_same hr hx hy
  obtain ⟨-, hy₁⟩ := seed_same hr hy hx
  unfold track
  revert hsame hx₁ hy₁
  rcases t.seed? x with ⟨stop | ⟨commit, _ | ⟨m, e⟩⟩, x₁⟩ <;>
    rcases t.seed? y with ⟨stop' | ⟨commit', _ | ⟨m', e'⟩⟩, y₁⟩ <;>
    intro hsame hx₁ hy₁ <;> cases hsame
  · exact ⟨rfl, hx₁⟩
  · exact ⟨rfl, hx₁⟩
  · -- the event before the walk is no use of the cache
    let told : Session σ → Session σ := fun s => (SessionM.tell .debug "seed_located"
      [("element", .text e.qualifiedName), ("lines", .text e.lines.text)] s).2
    have hmap : ∀ r : Except Stop (History α), (r.mapError TrackFault.stopped).map History.graph
        = (r.map History.graph).mapError TrackFault.stopped := fun r => by cases r <;> rfl
    have hwalk : (t.walker.history t.steps commit t.config.path m e (told x₁)).1.map History.graph
        = (t.walker.history t.steps commit t.config.path m e (told y₁)).1.map History.graph :=
      history_alike hr hw hx₁ hy₁ rfl
    refine ⟨?_, remembers_history (x := told x₁) hr hx₁⟩
    show ((t.walker.history t.steps commit t.config.path m e (told x₁)).1.mapError _).map _
      = ((t.walker.history t.steps commit t.config.path m e (told y₁)).1.mapError _).map _
    rw [hmap, hmap, hwalk]

/-- Trackers that share a cache tell what each of them tells with an empty one. -/
theorem trackEach_same {w : Walker σ α} (hr : w.repository.Steady) {ts : List (Tracker σ α)}
    (hts : ∀ t ∈ ts, w.Shares t.walker ∧ t.walker.TimedBy fun _ => ()) (hx : w.Remembers x.cache)
    (hy : w.Remembers y.cache) :
    (trackEach ts x).1.map (·.map History.graph)
      = ts.map fun t => (t.track y).1.map History.graph := by
  induction ts generalizing x with
  | nil => rfl
  | cons t ts ih =>
    obtain ⟨hshares, htimed⟩ := hts t List.mem_cons_self
    obtain ⟨hsame, hx₁⟩ := track_same (hshares.steady hr) htimed (hshares.remembers_iff.mpr hx)
      (hshares.remembers_iff.mpr hy)
    replace hx₁ := hshares.remembers_iff.mp hx₁
    have hrest : ∀ {x : Session σ}, w.Remembers x.cache → _ := fun hx =>
      ih (x := _) (fun t ht => hts t (List.mem_cons_of_mem _ ht)) hx
    unfold trackEach
    revert hsame hx₁
    rcases t.track x with ⟨fault | h, x₁⟩ <;> intro hsame hx₁
    · exact congrArg₂ List.cons hsame (hrest (x := (SessionM.tell _ _ _ x₁).2) hx₁)
    · exact congrArg₂ List.cons hsame (hrest hx₁)

end Tracker

/-- **A shared cache is transparent.**  A walk that begins with a cache that was used before tells
the history that it tells with the empty cache: the same versions, changes, ends of branches and
flag of the budget, or the same failure.  Trackers that run one after the other and share a cache
tell what each tells alone; so their order does not matter. -/
theorem shared_cache_transparent [Score α] {w : Walker σ α} (hr : w.repository.Steady) :
    (∀ (clock : σ → τ), w.TimedBy clock → ∀ (x x' : Session σ), w.Used x.cache → x'.cache = {} →
      clock x.world = clock x'.world →
      ∀ (fuel : Nat) (commit : Commit) (path : String) (m : Model) (e : Element),
        (w.history fuel commit path m e x).1.map History.graph
          = (w.history fuel commit path m e x').1.map History.graph) ∧
    ∀ (ts : List (Tracker σ α)), (∀ t ∈ ts, w.Shares t.walker ∧ t.walker.TimedBy fun _ => ()) →
      ∀ (x y : Session σ), w.Used x.cache → y.cache = {} →
        (Tracker.trackEach ts x).1.map (·.map History.graph)
          = ts.map fun t => (t.track y).1.map History.graph := by
  have hempty : ∀ {y : Session σ}, y.cache = {} → w.Remembers y.cache := fun h =>
    h ▸ Walker.remembers_empty
  constructor
  · intro clock hw x x' hx hx' hclock fuel commit path m e
    exact Walker.history_alike hr hw (hx.remembers hr) (hempty hx') hclock
  · intro ts hts x y hx hy
    exact Tracker.trackEach_same hr hts (hx.remembers hr) (hempty hy)

/-- One of two variables of a file gets another value. -/
def twoVariables : Archive :=
  { commits := [
      { id := "r", files := [("x.py", "v = 1\nw = 2\n".toUTF8.toList)], committed := 1 },
      { id := "m", parents := ["r"], files := [("x.py", "v = 1\nw = 3\n".toUTF8.toList)],
        committed := 2 }]
    head := "m" }

/-- The trackers of the two variables. -/
def twoVariablesTrackers : List (Tracker Unit Float) :=
  [twoVariables.fixedTracker "x.py" (.variableAt none "v" 1),
    twoVariables.fixedTracker "x.py" (.variableAt none "w" 2)]

/-- The second tracker finds in the cache what the first one has left there. -/
theorem twoVariables_tell : (Tracker.trackEach twoVariablesTrackers ⟨(), {}, []⟩).1.map (fun
      | .ok h => some (h.nodes.map (·.commitId), h.report.cacheHits, h.report.cacheMisses)
      | .error _ => none) = [some (["m", "r"], 0, 1), some (["m", "r"], 1, 0)] ∧
    (Tracker.trackEach twoVariablesTrackers ⟨(), {}, []⟩).2.cache.size = 2 := by
  decide +kernel

theorem shared_cache_transparent_twoVariables : ∃ (w : Walker Unit Float) (x x' : Session Unit),
    w.repository = twoVariables.fixed ∧ w.repository.Steady ∧ w.TimedBy (fun _ => ()) ∧
    w.Used x.cache ∧ x.cache.size = 2 ∧ x'.cache = {} ∧
    (∀ (fuel : Nat) (commit : Commit) (path : String) (m : Model) (e : Element),
      (w.history fuel commit path m e x).1.map History.graph
        = (w.history fuel commit path m e x').1.map History.graph) ∧
    (∀ t ∈ twoVariablesTrackers, w.Shares t.walker ∧ t.walker.TimedBy fun _ => ()) ∧
    (Tracker.trackEach twoVariablesTrackers x).1.map (·.map History.graph)
      = twoVariablesTrackers.map fun t => (t.track x').1.map History.graph := by
  let w : Walker Unit Float := (twoVariables.fixedTracker "x.py" (.variableAt none "v" 1)).walker
  have htimed : w.TimedBy fun _ => () := Walker.timedBy_still fun _ => rfl
  have hts : ∀ t ∈ twoVariablesTrackers, w.Shares t.walker ∧ t.walker.TimedBy fun _ => () := by
    rintro t (_ | ⟨_, _ | ⟨_, ht⟩⟩)
    · exact ⟨⟨rfl, rfl⟩, htimed⟩
    · exact ⟨⟨rfl, rfl⟩, htimed⟩
    · cases ht
  have hused : w.Used (Tracker.trackEach twoVariablesTrackers ⟨(), {}, []⟩).2.cache :=
    Tracker.used_trackEach (fun t ht => (hts t ht).1) .empty
  obtain ⟨hwalks, htracks⟩ := shared_cache_transparent (w := w) Archive.steady_fixed
  exact ⟨w, _, ⟨(), {}, []⟩, rfl, Archive.steady_fixed, htimed, hused, twoVariables_tell.2, rfl,
    hwalks _ htimed _ _ hused rfl rfl, hts, htracks _ hts _ _ hused rfl⟩

end Lineage
