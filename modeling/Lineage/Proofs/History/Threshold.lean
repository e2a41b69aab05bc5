import Lineage.Proofs.History.Reachable
import Lineage.Proofs.Matching.Threshold

/-! # Histories with a higher threshold

Raising the threshold filters what a move to another file gives (`followMove_raise`), but not
what a parent version of the file itself gives.  Where the lower threshold accepts a match there
that does not reach the higher one (`Walker.Diverts`), the search with the higher threshold goes
on, and may accept another element.  Everywhere else a match with the higher threshold is one
with the lower threshold too (`Walker.matches_raise`).

Hence the history with the higher threshold has a version that the other one lacks only if a
step of it departs from the other one at such a place, or where the other one stops at an
extraction (`raised_threshold_adds_nothing_iff`).  Both happen: a function that was renamed
and moved is found with a high threshold, and missed with a low one that accepts the element
which stood in its lines before (`not_raised_threshold_adds_nothing`).
-/
namespace Lineage
open Score
variable {σ α : Type}

namespace Walker
variable {w : Walker σ α} {t : α}

/-- The walker with another threshold. -/
def withThreshold (w : Walker σ α) (t : α) : Walker σ α :=
  { w with matching := w.matching.withThreshold t }

theorem remembers_withThreshold {c : Cache} :
    (w.withThreshold t).Remembers c ↔ w.Remembers c :=
  ⟨fun h => ⟨h.idle, h.entries⟩, fun h => ⟨h.idle, h.entries⟩⟩

theorem tellsApart_withThreshold {seed : Version} :
    (w.withThreshold t).TellsApart seed ↔ w.TellsApart seed :=
  ⟨fun h => ⟨h.commits, h.ranges⟩, fun h => ⟨h.commits, h.ranges⟩⟩

theorem proper_withThreshold {seed v : Version} :
    (w.withThreshold t).Proper seed v ↔ w.Proper seed v :=
  ⟨fun h => ⟨h.commit, h.built, h.element, h.kind⟩, fun h => ⟨h.commit, h.built, h.element, h.kind⟩⟩

end Walker

variable [Score α]

/-- The score of a match reaches a threshold. -/
def Match.reaches (t : α) (m : Match α) : Bool := le t m.score

namespace Walker
open Walk
variable {w : Walker σ α} {t₁ t₂ : α}

/-! ### One place -/

variable (w) in
/-- What looking into a version of a file gives, by its model. -/
def verdict (origin : Active) (commit : Commit) (path : String) : CachedModel → MatchResult α
  | .unparseable => .unparseable
  | .model earlier =>
    match ((Lookup.mk origin.element origin.model earlier).search w.matching).accepted? with
    | some (_, s, kind) => .found ⟨commit, path, earlier, s.element, kind, s.score⟩
    | none => .absent

theorem matchIn_outcome (origin : Active) (commit : Commit) (path : String) (s : WalkState σ α) :
    (w.matchIn origin commit path s).1
      = (w.modelOf commit.id path s).1.map (w.verdict origin commit path) := by
  unfold matchIn
  rcases hmodel : (w.modelOf commit.id path s).1 with stop | earlier | _
  · rw [bind_of_error hmodel]
    rfl
  · rw [bind_of_ok hmodel]
    dsimp only [Except.map, verdict]
    rcases (Lookup.mk origin.element origin.model earlier).search w.matching with _ | _ | _ <;> rfl
  · rw [bind_of_ok hmodel]
    rfl

variable [Ordered α]

/-- Looking into a version of a file with a higher threshold gives the same, unless the lower one
gives a match that does not reach the higher one. -/
theorem matchIn_raise (ht : le t₁ t₂ = true) (origin : Active) (commit : Commit) (path : String)
    (s : WalkState σ α) :
    ((w.withThreshold t₂).matchIn origin commit path s).1
        = ((w.withThreshold t₁).matchIn origin commit path s).1 ∨
      ∃ m, ((w.withThreshold t₁).matchIn origin commit path s).1 = .ok (.found m) ∧
        m.reaches t₂ = false := by
  rw [matchIn_outcome, matchIn_outcome]
  show (w.modelOf commit.id path s).1.map _ = (w.modelOf commit.id path s).1.map _ ∨
    ∃ m, (w.modelOf commit.id path s).1.map _ = _ ∧ _
  rcases (w.modelOf commit.id path s).1 with stop | earlier | _
  · exact .inl rfl
  · let q : Lookup := ⟨origin.element, origin.model, earlier⟩
    have hsearch := q.search_raise (c := w.matching) ht
    rcases hsearch with heq | ⟨⟨tier, s, kind⟩, hlow, hreach⟩
    · refine .inl ?_
      show Except.ok (match (q.search (w.matching.withThreshold t₂)).accepted? with
        | some (_, s, kind) => _ | none => _) = _
      rw [heq]
      rfl
    · refine .inr ⟨⟨commit, path, earlier, s.element, kind, s.score⟩, ?_, hreach⟩
      show Except.ok (match (q.search (w.matching.withThreshold t₁)).accepted? with
        | some (_, s, kind) => _ | none => _) = _
      rw [hlow]
  · exact .inl rfl

/-! ### Other files -/

/-- The better of two matches. -/
def atLeast (b m : Match α) : Match α := if lt b.score m.score then m else b

omit [Ordered α] in
theorem better_eq (best : Option (Match α)) (m : Match α) :
    better best m = challenge atLeast best m := by
  cases best with
  | none => rfl
  | some b =>
    show (if lt b.score m.score then some m else some b) = some (atLeast b m)
    unfold atLeast
    split <;> rfl

/-- The better of two matches goes by the score. -/
theorem goesBy_atLeast (t : α) :
    GoesBy (Match.reaches t) atLeast fun m : Match α => Number m.score where
  either b m := by
    unfold atLeast
    split
    · exact .inr rfl
    · exact .inl rfl
  keeps := by
    intro b m _ hm hreach hnot
    refine if_neg fun h => ?_
    rw [Match.reaches, le_of_le_of_lt hreach h] at hnot
    cases hnot
  takes := by
    intro b m hb _ hnot hreach
    exact if_pos (lt_of_not_reach hb hreach hnot)

/-- With a higher threshold, what is found in files is filtered. -/
theorem searchFiles_raise (ht : le t₁ t₂ = true) (origin : Active) (parent : Commit)
    (paths : List String) {best : Option (Match α)} (hbest : ∀ m, best = some m → Number m.score)
    (s : WalkState σ α) :
    ((w.withThreshold t₂).searchFiles origin parent paths (best.filter (Match.reaches t₂)) s).1
      = ((w.withThreshold t₁).searchFiles origin parent paths best s).1.map
          (Option.filter (Match.reaches t₂)) := by
  induction paths generalizing best s with
  | nil => rfl
  | cons path rest ih =>
    have hmodel : ∀ t, (w.withThreshold t).modelOf parent.id path = w.modelOf parent.id path :=
      fun _ => rfl
    have hmatching : ∀ t, (w.withThreshold t).matching = w.matching.withThreshold t := fun _ => rfl
    unfold searchFiles
    rw [hmodel, hmodel, bind_apply, bind_apply]
    rcases attempt (w.modelOf parent.id path) s with ⟨stop | f | earlier | _, s'⟩
    · rfl
    · exact ih hbest _
    · let q : Lookup := ⟨origin.element, origin.model, earlier⟩
      have hraise := q.elsewhere?_raise (c := w.matching) ht
      dsimp only
      rw [hmatching, hmatching, show Lookup.mk origin.element origin.model earlier = q from rfl]
      rcases hlow : q.elsewhere? (w.matching.withThreshold t₁) with _ | ⟨found, kind⟩
      · rw [hlow] at hraise
        rw [hraise]
        exact ih hbest _
      rw [hlow] at hraise
      let m : Match α := ⟨parent, path, earlier, found.element, kind, found.score⟩
      have hm : Number m.score := (Ordered.number (Lookup.chooses_of_elsewhere? hlow).reaches).2
      have hrest := ih ((goesBy_atLeast t₂).challenge_good hbest hm) s'
      rw [(goesBy_atLeast t₂).challenge_filter hbest hm, ← better_eq, ← better_eq] at hrest
      -- a match that does not reach the higher threshold is dropped on both sides
      rcases hreach : m.reaches t₂ with _ | _
      · rw [if_neg (Bool.eq_false_iff.mp hreach)] at hrest
        rw [hraise.trans (Option.filter_some_neg hreach)]
        exact hrest
      · rw [if_pos hreach] at hrest
        rw [hraise.trans (Option.filter_some_pos hreach)]
        exact hrest
    · exact ih hbest _

/-- With a higher threshold, what is found in the files of a parent is filtered. -/
theorem findMoved_raise (ht : le t₁ t₂ = true) (origin : Active) (parentId : String)
    (s : WalkState σ α) :
    ((w.withThreshold t₂).findMoved origin parentId s).1
      = ((w.withThreshold t₁).findMoved origin parentId s).1.map
          (Option.filter (Match.reaches t₂)) := by
  have hask : ∀ t, (w.withThreshold t).repository = w.repository := fun _ => rfl
  have hsources : ∀ t, (w.withThreshold t).moveSources = w.moveSources := fun _ => rfl
  unfold findMoved
  rw [hask, hask, hsources, hsources, bind_apply, bind_apply]
  rcases attempt (inSession (.ask (w.repository.changedPaths origin.commit.id parentId))) s
    with ⟨stop | f | paths, s₁⟩
  · rfl
  · rfl
  dsimp only
  split
  · rfl
  rw [bind_apply, bind_apply]
  rcases attempt (inSession (.ask (w.repository.resolve parentId))) s₁ with ⟨stop | f | parent, s₂⟩
  · rfl
  · rfl
  have hnone : ∀ m : Match α, none = some m → Number m.score := fun _ h => nomatch h
  have hfiles := searchFiles_raise (w := w) ht origin parent (w.moveSources origin paths) hnone s₂
  dsimp only
  rcases hlow : ((w.withThreshold t₁).searchFiles origin parent (w.moveSources origin paths)
    none s₂).1 with stop | r
  · rw [hlow] at hfiles
    rw [bind_of_error hlow]
    exact congrArg Prod.fst (bind_of_error hfiles)
  · rw [hlow] at hfiles
    rw [bind_of_ok hlow]
    refine (congrArg Prod.fst (bind_of_ok hfiles)).trans ?_
    -- telling of the match at the end changes no outcome
    rcases r with _ | m
    · rfl
    · rcases hreach : m.reaches t₂ with _ | _
      · rw [Option.filter_some_neg hreach]
        exact congrArg Except.ok (Option.filter_some_neg hreach).symm
      · rw [Option.filter_some_pos hreach]
        exact congrArg Except.ok (Option.filter_some_pos hreach).symm

/-- With a higher threshold, what is found by following a move is filtered. -/
theorem followMove_raise (ht : le t₁ t₂ = true) (origin : Active) (parentId : String)
    (s : WalkState σ α) :
    ((w.withThreshold t₂).followMove origin parentId s).1
      = ((w.withThreshold t₁).followMove origin parentId s).1.map
          (Option.filter (Match.reaches t₂)) := by
  have hmove : ∀ t, (w.withThreshold t).followMove origin parentId
      = if w.config.followMoves then (w.withThreshold t).findMoved origin parentId
        else return none := fun _ => rfl
  rw [hmove, hmove]
  split
  · exact findMoved_raise ht origin parentId s
  · rfl

/-! ### Versions before a version -/

/-- What following a move gives with a higher threshold, it gives with a lower one. -/
theorem gives_followMove_raise (ht : le t₁ t₂ = true) {origin : Active} {parentId : String}
    {m : Match α} (h : Gives ((w.withThreshold t₂).followMove origin parentId) (some m)) :
    Gives ((w.withThreshold t₁).followMove origin parentId) (some m) := by
  obtain ⟨s, hs, hm⟩ := h
  rw [followMove_raise ht] at hm
  refine ⟨s, hs, ?_⟩
  rcases hlow : ((w.withThreshold t₁).followMove origin parentId s).1 with stop | r
  · rw [hlow] at hm
    cases hm
  · rw [hlow] at hm
    rw [(Option.filter_eq_some_iff.mp (Except.ok.inj hm)).1]

variable (w t₁ t₂) in
/-- The lower threshold accepts a match in a parent version of the file that does not reach the
higher one. -/
def Diverts (u : Version) (v : ParentVersion) : Prop :=
  ∃ m, Gives ((w.withThreshold t₁).matchIn u.active v.commit v.path) (.found m) ∧
    m.reaches t₂ = false

/-- A match for a parent version with a higher threshold is the one with the lower, unless the
lower one accepts what does not reach the higher. -/
theorem follows_raise (ht : le t₁ t₂ = true) {u : Version} {v : ParentVersion} {m : Match α}
    (h : (w.withThreshold t₂).Follows u v m) :
    (w.withThreshold t₁).Follows u v m ∨ w.Diverts t₁ t₂ u v := by
  have hraise : ∀ {r}, Gives ((w.withThreshold t₂).matchIn u.active v.commit v.path) r →
      Gives ((w.withThreshold t₁).matchIn u.active v.commit v.path) r ∨ w.Diverts t₁ t₂ u v := by
    rintro r ⟨s, hs, hr⟩
    rcases matchIn_raise (w := w) ht u.active v.commit v.path s with heq | ⟨m', hlow, hreach⟩
    · exact .inl ⟨s, hs, heq.symm.trans hr⟩
    · exact .inr ⟨m', ⟨s, hs, hlow⟩, hreach⟩
  rcases h with hfound | ⟨habsent, hmoved⟩
  · exact (hraise hfound).imp_left .inl
  · exact (hraise habsent).imp_left fun h => .inr ⟨h, gives_followMove_raise ht hmoved⟩

variable (w t₁ t₂) in
/-- A match with the higher threshold, for a parent version of the file in which the lower one
accepts something else. -/
def Diverted (u : Version) (m : Match α) : Prop :=
  ∃ vs, Gives (w.previous u.commit.id u.path) vs ∧
    ∃ v ∈ vs, w.Diverts t₁ t₂ u v ∧ (w.withThreshold t₂).Follows u v m

/-- **A higher threshold gives no new matches**, except where the lower one accepts something
else. -/
theorem matches_raise (ht : le t₁ t₂ = true) {u : Version} {m : Match α}
    (h : (w.withThreshold t₂).Matches u m) :
    (w.withThreshold t₁).Matches u m ∨ w.Diverted t₁ t₂ u m := by
  obtain ⟨vs, hvs, ⟨v, hv, hfollows⟩ | ⟨hnone, p, hp, hmoved⟩⟩ := h
  · rcases follows_raise ht hfollows with hlow | hdiverts
    · exact .inl ⟨vs, hvs, .inl ⟨v, hv, hlow⟩⟩
    · exact .inr ⟨vs, hvs, v, hv, hdiverts, hfollows⟩
  · exact .inl ⟨vs, hvs, .inr ⟨hnone, p, hp, gives_followMove_raise ht hmoved⟩⟩

end Walker

/-! ### Histories -/

/-- The history has a version with the key. -/
def History.Has (h : History α) (key : VersionKey) : Prop := ∃ n ∈ h.nodes, n.key = key

/-- A step of the history `high` that leaves the history `low`: from a version that both have to
one that only `high` has.  Either `low` stops at an extraction, or the lower threshold accepts
something else in the parent version. -/
structure Walker.Departs (w : Walker σ α) (t₁ t₂ : α) (low high : History α) (u : Version)
    (m : Match α) : Prop where
  taken : ∃ n ∈ high.nodes, ∃ n' ∈ high.nodes, n.key = u.key ∧ n'.key = m.key ∧
    high.Edge n.index n'.index
  shared : low.Has u.key
  left : ¬ low.Has m.key
  why : (∃ n ∈ low.nodes, n.key = u.key ∧ .extracted ∈ low.reasonsAt n.index) ∨
    w.Diverted t₁ t₂ u m

/-- **When a higher threshold adds nothing.**  The histories of a seed with two thresholds are
compared; the one with the lower threshold was not cut.  All versions of the history with the
higher threshold are in the other one exactly if no step of it departs from the other one:
where that one stops at an extraction, or where the lower threshold accepts a match that does
not reach the higher one, so that the higher one goes on to another match. -/
theorem raised_threshold_adds_nothing_iff [Ordered α] {w : Walker σ α} {seed : Version} {t₁ t₂ : α}
    (ht : le t₁ t₂ = true) (hr : w.repository.Steady) (hapart : w.TellsApart seed)
    (hbuilt : w.Builds seed.commit.id seed.path (.model seed.model))
    (helement : seed.element ∈ seed.model.elements.toList) {fuel₁ fuel₂ : Nat}
    {x₁ x₁' x₂ x₂' : Session σ} {low high : History α} (hx₁ : w.Remembers x₁.cache)
    (hx₂ : w.Remembers x₂.cache)
    (hlow : (w.withThreshold t₁).history fuel₁ seed.commit seed.path seed.model seed.element x₁
      = (.ok low, x₁'))
    (hhigh : (w.withThreshold t₂).history fuel₂ seed.commit seed.path seed.model seed.element x₂
      = (.ok high, x₂'))
    (hbudget : low.budgetExceeded = false) :
    (∀ key, high.Has key → low.Has key) ↔ ¬ ∃ u m, w.Departs t₁ t₂ low high u m := by
  constructor
  · rintro hsub ⟨u, m, hdeparts⟩
    obtain ⟨-, -, n', hn', -, hkey', -⟩ := hdeparts.taken
    exact hdeparts.left (hsub _ ⟨n', hn', hkey'⟩)
  intro hnone
  have hseed : ∀ t, (w.withThreshold t).Proper seed seed := fun _ =>
    ⟨.inl rfl, hbuilt, helement, rfl⟩
  obtain ⟨s₁, rfl, hwalked₁⟩ := Walker.walked_of_history hlow
  obtain ⟨s₂, rfl, hwalked₂⟩ := Walker.walked_of_history hhigh
  have hexplored₁ := hwalked₁.explored (w := w.withThreshold t₁) hr
    (Walker.tellsApart_withThreshold.mpr hapart) (hseed t₁) (Walker.remembers_withThreshold.mpr hx₁)
  have hexplored₂ := hwalked₂.explored (w := w.withThreshold t₂) hr
    (Walker.tellsApart_withThreshold.mpr hapart) (hseed t₂) (Walker.remembers_withThreshold.mpr hx₂)
  have hreplay₁ := hwalked₁.replay rfl
  have hreplay₂ := hwalked₂.replay rfl
  -- along the edges: one that leads to a version that the lower history lacks is a departure
  have hshared : ∀ n ∈ s₂.run.nodes, s₁.run.toHistory.Has n.key := by
    refine hreplay₂.forall_nodes (fun n hn hstart => ?_)
      fun e he n hn n' hn' hsource htarget ih => ?_
    · obtain ⟨n₁, hn₁, -, hstart₁, -⟩ := hreplay₁.records.seeded
      exact ⟨n₁, hn₁, hstart₁.trans hstart.symm⟩
    obtain ⟨n₀, hn₀, n₀', hn₀', u, v, hsource₀, hkey, htarget₀, hkey', hu, -, m, hm, rfl⟩ :=
      hexplored₂.edges e he
    obtain rfl := hreplay₂.records.eq_of_index hn hn₀ (hsource.trans hsource₀.symm)
    obtain rfl := hreplay₂.records.eq_of_index hn' hn₀' (htarget.trans htarget₀.symm)
    replace hkey' : n'.key = m.key := hkey'
    obtain ⟨n₁, hn₁, hkey₁⟩ := ih
    by_contra hleft
    have hdeparts : ∀ hwhy, w.Departs t₁ t₂ s₁.run.toHistory s₂.run.toHistory u m := fun hwhy =>
      ⟨⟨n, hn, n', hn', hkey, hkey', e, he, hsource.symm, htarget.symm⟩,
        ⟨n₁, hn₁, hkey₁.trans hkey⟩, hkey' ▸ hleft, hwhy⟩
    by_cases hstops : s₁.run.graph.stopsAt n₁.index = true
    · exact hnone ⟨u, m, hdeparts (.inl ⟨n₁, hn₁, hkey₁.trans hkey,
        hreplay₁.mem_reasonsAt_iff.mpr hstops⟩)⟩
    -- a match with the lower threshold, too, is one that the lower history has followed
    rcases Walker.matches_raise ht hm with hsame | hdiverted
    · have hproper : (w.withThreshold t₁).Proper seed u :=
        Walker.proper_withThreshold.mpr (Walker.proper_withThreshold.mp hu)
      obtain ⟨n₁', hn₁', hkey₁', -⟩ := hexplored₁.closed hbudget n₁ hn₁
        (Bool.eq_false_iff.mpr hstops) u hproper (hkey₁.trans hkey) m hsame
      exact hleft ⟨n₁', hn₁', hkey₁'.trans hkey'.symm⟩
    · exact hnone ⟨u, m, hdeparts (.inr hdiverted)⟩
  rintro key ⟨n, hn, rfl⟩
  exact hshared n hn

/-- The tracker with another threshold. -/
def Tracker.withThreshold (tracker : Tracker σ α) (t : α) : Tracker σ α :=
  { tracker with walker := tracker.walker.withThreshold t }

omit [Score α] in
/-- The threshold has no part in where a walk starts. -/
theorem Tracker.start?_withThreshold (tracker : Tracker σ α) (t : α) (s : Session σ) :
    (tracker.withThreshold t).start? s = tracker.start? s := rfl

/-! ### A function that moved -/

/-- A function was renamed, and moved over the lines of a short method. -/
def movedUp : Archive :=
  { commits := [
      { id := "r", committed := 1,
        files := [("x.py", "class C:\n def g(): 0\ndef h(a):\n a\n".toUTF8.toList)] },
      { id := "m", parents := ["r"], committed := 2,
        files := [("x.py", "\ndef f(a):\n a\n".toUTF8.toList)] }]
    head := "m" }

/-- The tracker of the function. -/
def movedUpTracker : Tracker Unit Float := movedUp.fixedTracker "x.py" (.methodAt "f" 2)

/-- The lower threshold leads to the method, the higher one to the function. -/
theorem movedUp_tells : movedUp.distinctRanges .methodDecl = true ∧
    (movedUpTracker.withThreshold 0.1).tells ⟨(), {}, []⟩ (fun h => h.budgetExceeded = false ∧
      h.nodes.map HistoryNode.key = [⟨"m", "x.py", ⟨2, 3⟩⟩, ⟨"r", "x.py", ⟨2, 2⟩⟩]) = true ∧
    (movedUpTracker.withThreshold 0.5).tells ⟨(), {}, []⟩ (fun h =>
      h.nodes.map HistoryNode.key = [⟨"m", "x.py", ⟨2, 3⟩⟩, ⟨"r", "x.py", ⟨3, 4⟩⟩]) = true := by
  decide +kernel

theorem movedUp_histories : ∃ commit m e x x₁ x₂ low high,
    movedUpTracker.start? ⟨(), {}, []⟩ = some (⟨0, commit, "x.py", m, e⟩, x) ∧
    (movedUpTracker.walker.withThreshold 0.1).history movedUpTracker.steps commit "x.py" m e x
      = (.ok low, x₁) ∧
    (movedUpTracker.walker.withThreshold 0.5).history movedUpTracker.steps commit "x.py" m e x
      = (.ok high, x₂) ∧
    low.budgetExceeded = false ∧
    low.nodes.map HistoryNode.key = [⟨"m", "x.py", ⟨2, 3⟩⟩, ⟨"r", "x.py", ⟨2, 2⟩⟩] ∧
    high.nodes.map HistoryNode.key = [⟨"m", "x.py", ⟨2, 3⟩⟩, ⟨"r", "x.py", ⟨3, 4⟩⟩] := by
  obtain ⟨low, x₁, htrack, hlow⟩ := Tracker.exists_of_tells movedUp_tells.2.1
  obtain ⟨commit, m, e, x, hstart, hhistory⟩ := Tracker.history_of_track htrack
  obtain ⟨high, x₂, htrack', hhigh⟩ := Tracker.exists_of_tells movedUp_tells.2.2
  obtain ⟨commit', m', e', x', hstart', hhistory'⟩ := Tracker.history_of_track htrack'
  rw [Tracker.start?_withThreshold] at hstart hstart'
  obtain ⟨heq, rfl⟩ := Prod.mk.inj (Option.some.inj (hstart.symm.trans hstart'))
  obtain ⟨-, rfl, -, rfl, rfl⟩ := Active.mk.inj heq
  obtain ⟨hbudget, hkeys⟩ := of_decide_eq_true hlow
  exact ⟨commit, m, e, x, x₁, x₂, low, high, hstart, hhistory, hhistory', hbudget, hkeys,
    of_decide_eq_true hhigh⟩

theorem not_raised_threshold_adds_nothing :
    ¬ ∀ (w : Walker Unit Float) (t₁ t₂ : Float) (fuel : Nat) (commit : Commit) (path : String)
      (m : Model) (e : Element) (x x₁ x₂ : Session Unit) (low high : History Float),
      le t₁ t₂ = true →
      (w.withThreshold t₁).history fuel commit path m e x = (.ok low, x₁) →
      (w.withThreshold t₂).history fuel commit path m e x = (.ok high, x₂) →
      ∀ key, high.Has key → low.Has key := by
  intro hsub
  obtain ⟨commit, m, e, x, x₁, x₂, low, high, -, hlow, hhigh, -, hkeys, hkeys'⟩ := movedUp_histories
  have hnew : high.Has ⟨"r", "x.py", ⟨3, 4⟩⟩ := List.mem_map.mp (by rw [hkeys']; decide)
  have hold := List.mem_map.mpr (hsub _ 0.1 0.5 _ commit _ m e x x₁ x₂ low high
    (by decide +kernel) hlow hhigh _ hnew)
  rw [hkeys] at hold
  revert hold
  decide

theorem raised_threshold_adds_nothing_iff_movedUp : ∃ w : Walker Unit Float, ∃ seed t₁ t₂ fuel,
    ∃ x x₁ x₂ low high, le t₁ t₂ = true ∧ w.repository = movedUp.fixed ∧ w.repository.Steady ∧
    w.TellsApart seed ∧ w.Builds seed.commit.id seed.path (.model seed.model) ∧
    seed.element ∈ seed.model.elements.toList ∧ w.Remembers x.cache ∧
    (w.withThreshold t₁).history fuel seed.commit seed.path seed.model seed.element x
      = (.ok low, x₁) ∧
    (w.withThreshold t₂).history fuel seed.commit seed.path seed.model seed.element x
      = (.ok high, x₂) ∧
    low.budgetExceeded = false ∧ low.nodes.length = 2 ∧ high.nodes.length = 2 ∧
    ((∀ key, high.Has key → low.Has key) ↔ ¬ ∃ u m, w.Departs t₁ t₂ low high u m) := by
  obtain ⟨commit, m, e, x, x₁, x₂, low, high, hstart, hlow, hhigh, hbudget, hkeys, hkeys'⟩ :=
    movedUp_histories
  obtain ⟨hresolves, hproper, hkind, hx⟩ :=
    Tracker.start_spec Archive.steady_fixed Walker.remembers_empty hstart
  replace hkind : e.kind = .methodDecl := hkind
  have hapart : movedUpTracker.walker.TellsApart ⟨commit, "x.py", m, e⟩ :=
    Archive.tellsApart_fixed (by decide) (.inl ⟨_, hresolves⟩) (hkind ▸ movedUp_tells.1)
  have ht : le (0.1 : Float) 0.5 = true := by decide +kernel
  have hlength := congrArg List.length hkeys
  have hlength' := congrArg List.length hkeys'
  rw [List.length_map] at hlength hlength'
  exact ⟨movedUpTracker.walker, ⟨commit, "x.py", m, e⟩, 0.1, 0.5, _, x, x₁, x₂, low, high, ht, rfl,
    Archive.steady_fixed, hapart, hproper.built, hproper.element, hx, hlow, hhigh, hbudget, hlength,
    hlength', raised_threshold_adds_nothing_iff ht Archive.steady_fixed hapart hproper.built
      hproper.element hx hx hlow hhigh hbudget⟩

end Lineage
