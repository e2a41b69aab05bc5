import Lineage.Proofs.History.Alike
import Lineage.Proofs.History.Successors
import Lineage.Proofs.Repository.Fixed
import Lineage.Proofs.Repository.Line

/-! # Walking back a linear history

Where the history of a file is a line of commits and the element is found again in each version of
the file, a walk without a budget expands one version after the other.  From a commit it jumps over
all commits behind it that did not touch the file, the parent included; so it comes to the commits
that touched the file, to each of them once (`Walker.steps_line`).

The proof goes forward: a version before the root has one parent version, and the match there is
recorded as a new node (`Walker.advance_found`); the root has none, and is introduced there
(`Walker.advance_root`).
-/
namespace Lineage
variable {σ α : Type}

theorem ObjectStore.steady_repository (g : ObjectStore) : (g.repository : Repository σ).Steady :=
  ⟨fun _ _ _ => rfl, fun _ _ _ _ => rfl, fun _ _ _ _ => rfl, fun _ _ _ _ => rfl⟩

namespace Walker
open Walk
variable [Score α] {w : Walker σ α} {s : WalkState σ α} {a : Active} {path : String}

variable (w path) in
/-- Looking for an element in versions of a file, each time for what was found last, gives a match
in every one of them, and none is an extraction. -/
inductive FollowedBack : Model → Element → List CommitObject → Prop
  | done {m : Model} {e : Element} : FollowedBack m e []
  | step {m m' : Model} {e : Element} {d : CommitObject} {ds : List CommitObject} {tier : Tier}
      {found : Scored α} {kind : ChangeKind} (built : w.Builds d.id path (.model m'))
      (accepted : (Lookup.mk e m m').search w.matching = .accepted tier found kind)
      (kept : kind ≠ .extract) (rest : FollowedBack m' found.element ds) :
      FollowedBack m e (d :: ds)

/-! ### One version -/

omit [Score α] in
theorem outOfBudget_eq_false (hcommits : w.config.maxCommits = none)
    (hseconds : w.config.maxSeconds = none) (hcancelled : ∀ world, w.cancelled world = false) :
    w.outOfBudget s = false := by
  rw [outOfBudget, hcommits, hseconds, hcancelled]
  rfl

omit [Score α] in
theorem gives_modelOf (hr : w.repository.Steady) {id : String} {m : CachedModel}
    (hbuilt : w.Builds id path m) : Gives (w.modelOf id path) m := by
  obtain ⟨x, hx⟩ := hbuilt
  let s : WalkState σ α := ⟨{ x with cache := {} }, ⟨.classDecl, [], [], [], false, {}⟩⟩
  refine ⟨s, rfl, ?_⟩
  rw [(w.modelOf_session id path s).1, (modelOf_remembers hr remembers_empty).1]
  exact (SessionM.buildModel_same hr _ _).trans hx

/-- What the search accepts in a version of the file is found there. -/
theorem gives_examine_accepted (hr : w.repository.Steady) {v : ParentVersion} {m' : Model}
    {tier : Tier} {found : Scored α} {kind : ChangeKind}
    (hbuilt : w.Builds v.commit.id v.path (.model m'))
    (haccepted : (Lookup.mk a.element a.model m').search w.matching = .accepted tier found kind) :
    Gives (w.examine a v) (.found ⟨v.commit, v.path, m', found.element, kind, found.score⟩) := by
  refine (gives_examine hr).mpr (.inl ?_)
  obtain ⟨s, hs, hm⟩ := gives_modelOf (α := α) hr hbuilt
  refine ⟨s, hs, ?_⟩
  rw [matchIn, bind_of_ok hm]
  dsimp only
  rw [show (Lookup.mk a.version.active.element a.version.active.model m').search w.matching = _
    from haccepted]
  rfl

/-- A match in the only parent version is recorded. -/
theorem resolve_found (hr : w.repository.Steady) (hs : w.Remembers s.session.cache)
    {v : ParentVersion} {m : Match α} (hfound : Gives (w.examine a v) (.found m)) :
    ∃ s', w.resolve a [v] s = (.ok (s.run.opened m), s') ∧ s'.run.nodes = s.run.nodesWith m ∧
      w.Remembers s'.session.cache := by
  have hsteady := w.steady_examine hr a v
  have hok := (hsteady.gives_iff remembers_empty hs).mp hfound
  have hgraph := w.reads_examine a v s
  have hkeeps := hsteady.keeps s hs
  set s₁ := (w.examine a v s).2
  obtain ⟨s₂, hrecord, hrun, hcache⟩ := w.record_apply a (.found m) s₁
  have hsame : s₁.run.opened m = s.run.opened m ∧ s₁.run.nodesWith m = s.run.nodesWith m := by
    constructor
    · exact (congrArg (fun r : Run α => r.opened m) hgraph :)
    · exact (congrArg (fun r : Run α => r.nodesWith m) hgraph :)
  refine ⟨s₂, ?_, ?_, hcache ▸ hkeeps⟩
  · have hversion : w.resolveVersion a v s = (.ok (.matched (s.run.opened m)), s₂) := by
      rw [w.resolveVersion_eq, bind_of_ok hok, hrecord, ← hsame.1]
      rfl
    rw [resolve, List.mapM_cons, List.mapM_nil, bind_apply, bind_apply, hversion]
    show (Except.ok (settle a [.matched (s.run.opened m)]), s₂) = _
    simp [settle, Resolution.branches, Resolution.isAbsent]
  · rw [hrun, ← hsame.2]
    rfl

omit [Score α] in
/-- Asking for the previous versions of a file gives them, and leaves the nodes alone. -/
theorem askParents_previous (hr : w.repository.Steady) (hs : w.Remembers s.session.cache)
    {vs : List ParentVersion} (hprevious : Gives (w.previous a.commit.id a.path) vs) :
    ∃ s₁, w.askParents a s = (.ok (.ok vs), s₁) ∧ s₁.run.nodes = s.run.nodes ∧
      w.Remembers s₁.session.cache := by
  have hsteady := w.steady_parentVersions hr a.commit.id a.path
  have hok : (w.askParents a s).1 = .ok (.ok vs) :=
    attempt_eq_ok.mpr ((hsteady.gives_iff remembers_empty hs).mp hprevious)
  have hasked : w.askParents a s = (.ok (.ok vs), (w.askParents a s).2) := Prod.ext hok rfl
  refine ⟨_, hasked, ?_, (askParents_gives hr hs hasked).2⟩
  exact (congrArg Run.nodes (w.askParents_graph hasked) :)

/-- A version with one parent version is extended by the match there. -/
theorem advance_found (hr : w.repository.Steady) (hs : w.Remembers s.session.cache)
    {v : ParentVersion} {m : Match α} (hprevious : Gives (w.previous a.commit.id a.path) [v])
    (hfound : Gives (w.examine a v) (.found m)) (hnew : s.run.known? m = none)
    (hkept : m.kind ≠ .extract) :
    ∃ s', w.advance a s
        = (.ok [.active ⟨s.run.nodes.length, m.commit, m.path, m.model, m.element⟩], s') ∧
      s'.run.nodes = s.run.nodes ++ [s.run.newNode m.commit m.path m.element] ∧
      w.Remembers s'.session.cache := by
  obtain ⟨s₁, hasked, hnodes₁, hs₁⟩ := askParents_previous hr hs hprevious
  obtain ⟨s₂, hresolve, hnodes₂, hs₂⟩ := resolve_found hr hs₁ hfound
  have hnew₁ : s₁.run.known? m = none := by
    rwa [Run.known?_eq_none, hnodes₁, ← Run.known?_eq_none]
  have hopened : s₁.run.opened m
      = [.active ⟨s.run.nodes.length, m.commit, m.path, m.model, m.element⟩] := by
    simp [Run.opened, Run.place, hnew₁, hkept, hnodes₁]
  have hadvance := (Expands.followed hasked hresolve).advance
  rw [hopened] at hadvance
  refine ⟨_, hadvance, ?_, hs₂⟩
  show s₂.run.nodes = _
  rw [hnodes₂, Run.nodesWith_of_new hnew₁]
  simp only [Run.newNode, hnodes₁]

/-- A version of a root commit is introduced there. -/
theorem advance_root (hr : w.repository.Steady) (hs : w.Remembers s.session.cache)
    (hprevious : Gives (w.previous a.commit.id a.path) []) (hroot : a.commit.parentIds = []) :
    ∃ s', w.advance a s = (.ok [.terminated ⟨a.node, .introduced, none, none⟩], s') ∧
      s'.run.nodes = s.run.nodes := by
  obtain ⟨s₁, hasked, hnodes₁, -⟩ := askParents_previous hr hs hprevious
  have hmoves : a.commit.parentIds.mapM (w.movesFrom a) s₁ = (.ok [], s₁) := by
    rw [hroot]
    rfl
  exact ⟨_, (Expands.fresh hasked hmoves).advance, hnodes₁⟩

theorem steps_advance (hbudget : w.outOfBudget s = false) {bs : List Branch} {s' : WalkState σ α}
    (h : w.advance a s = (.ok bs, s')) (fuel : Nat) :
    w.steps (fuel + 1) [.active a] s = w.steps fuel bs s' := by
  rw [steps, bind_apply, step_active, if_neg (Bool.eq_false_iff.mp hbudget), bind_apply, h]
  rfl

theorem steps_terminated (t : Termination) (fuel : Nat) :
    ∃ s', w.steps (fuel + 1) [.terminated t] s = (.ok [], s') ∧ s'.run.nodes = s.run.nodes := by
  obtain ⟨s', hend, hrun, -⟩ := terminate_apply t s
  refine ⟨s', ?_, ?_⟩
  · rw [steps, step, bind_apply, bind_apply, hend]
    cases fuel <;> rfl
  · rw [hrun]
    exact (congrArg Run.nodes (s.run.bare_finish t) :)

/-! ### A line of commits -/

omit [Score α] in
theorem gives_previous {g : ObjectStore} (hg : w.repository = g.repository) (s : WalkState σ α)
    {id : String} {vs : List ParentVersion} (hversions : g.parentVersions id path = (.ok vs, []))
    (hdistinct : distinct vs [] = vs) : Gives (w.previous id path) vs := by
  let s₀ : WalkState σ α := { s with session := { s.session with cache := {} } }
  refine ⟨s₀, rfl, ?_⟩
  show (parentVersions w.repository id path s₀.session).1 = _
  have hanswer : (w.repository.parentsTouching id path s₀.session.world).1
      = (g.parentVersions id path).1.mapError .fault := by
    rw [hg]
    rfl
  rw [parentVersions_answer, hanswer, hversions]
  exact congrArg Except.ok hdistinct

/-- A walk that has come to the root of a line ends there. -/
theorem steps_root {g : ObjectStore} (hg : w.repository = g.repository)
    (hbudget : ∀ s, w.outOfBudget s = false) {c : CommitObject} (hline : g.Line path [c]) (m : Model)
    (e : Element) (node : Nat) (hs : w.Remembers s.session.cache) (fuel : Nat) :
    ∃ s', w.steps (fuel + 2) [.active ⟨node, ObjectStore.commitOf c, path, m, e⟩] s = (.ok [], s') ∧
      s'.run.nodes = s.run.nodes := by
  have hr : w.repository.Steady := hg ▸ g.steady_repository
  have hprevious := gives_previous hg s hline.parentVersions_root rfl
  have hroot : (ObjectStore.commitOf c).parentIds = [] := by
    cases hline with
    | root _ hparents => exact hparents
  obtain ⟨s₁, hadvance, hnodes⟩ := advance_root
    (a := ⟨node, ObjectStore.commitOf c, path, m, e⟩) hr hs hprevious hroot
  obtain ⟨s₂, hend, hnodes₂⟩ := steps_terminated (w := w) (s := s₁)
    ⟨node, .introduced, none, none⟩ fuel
  exact ⟨s₂, (steps_advance (hbudget s) hadvance (fuel + 1)).trans hend, hnodes₂.trans hnodes⟩

/-- From a version before the root a walk jumps to the nearest commit that touched the file, where
it finds the element again. -/
theorem advance_line {g : ObjectStore} (hg : w.repository = g.repository) {d : CommitObject}
    {parent : String} {m' : Model} {tier : Tier} {found : Scored α} {kind : ChangeKind}
    (hversions : g.parentVersions a.commit.id a.path
      = (.ok [⟨ObjectStore.commitOf d, path, parent⟩], []))
    (hbuilt : w.Builds d.id path (.model m'))
    (haccepted : (Lookup.mk a.element a.model m').search w.matching = .accepted tier found kind)
    (hkept : kind ≠ .extract) (hs : w.Remembers s.session.cache)
    (hnew : ∀ n ∈ s.run.nodes, n.commitId ≠ d.id) :
    ∃ s', w.advance a s
        = (.ok [.active ⟨s.run.nodes.length, ObjectStore.commitOf d, path, m', found.element⟩], s') ∧
      s'.run.nodes = s.run.nodes ++ [s.run.newNode (ObjectStore.commitOf d) path found.element] ∧
      w.Remembers s'.session.cache := by
  have hr : w.repository.Steady := hg ▸ g.steady_repository
  let v : ParentVersion := ⟨ObjectStore.commitOf d, path, parent⟩
  have hprevious : Gives (w.previous a.commit.id a.path) [v] := gives_previous hg s hversions rfl
  have hfound := gives_examine_accepted (a := a) (v := v) hr hbuilt haccepted
  have hunknown : s.run.known? (⟨v.commit, path, m', found.element, kind, found.score⟩ : Match α)
      = none := by
    refine Run.known?_eq_none.mpr fun n hn hkey => hnew n hn ?_
    exact congrArg VersionKey.commitId hkey
  exact advance_found hr hs hprevious hfound hunknown hkept

/-- **A walk from a commit of a line comes to the commits behind it that touched the file**, one
after the other, and ends at the root. -/
theorem steps_line {g : ObjectStore} (hg : w.repository = g.repository)
    (hbudget : ∀ s, w.outOfBudget s = false) {c : CommitObject}
    {before ds : List CommitObject} (hline : g.Line path (c :: before))
    (htell : g.TellsNearest path (c :: before)) {m : Model} {e : Element}
    (hfollow : w.FollowedBack path m e ds) (hds : ds = g.touching path before) (node : Nat)
    {s : WalkState σ α} (hs : w.Remembers s.session.cache)
    (hnew : ∀ n ∈ s.run.nodes, n.commitId ∉ before.map CommitObject.id) (fuel : Nat)
    (hfuel : before.length + 2 ≤ fuel) :
    ∃ s', w.steps fuel [.active ⟨node, ObjectStore.commitOf c, path, m, e⟩] s = (.ok [], s') ∧
      s'.run.nodes.map (fun n => (n.commitId, n.path))
        = s.run.nodes.map (fun n => (n.commitId, n.path)) ++ ds.map fun d => (d.id, path) := by
  -- on the matches: each jumps to the nearest commit that touched the file
  induction hfollow generalizing c before node s fuel with
  | done =>
    obtain rfl : before = [] := by
      by_contra hbefore
      obtain ⟨d, older, -, htouching⟩ := ObjectStore.exists_nearest g path hbefore
      cases hds.trans htouching
    obtain ⟨fuel, rfl⟩ := Nat.exists_eq_add_of_le' hfuel
    obtain ⟨s', hsteps, hnodes⟩ := steps_root hg hbudget hline _ _ node hs fuel
    refine ⟨s', hsteps, ?_⟩
    rw [hnodes, List.map_nil, List.append_nil]
  | @step m m' e d ds tier found kind hbuilt haccepted hkept hrest ih =>
    obtain ⟨p, before, rfl⟩ : ∃ p rest, before = p :: rest := by
      cases before with
      | nil => cases hds
      | cons p rest => exact ⟨p, rest, rfl⟩
    obtain ⟨d', older, hsuffix, htouching, hversions⟩ := hline.parentVersions_step htell
    obtain ⟨rfl, rfl⟩ := List.cons.inj (hds.trans htouching)
    have hids := hsuffix.sublist.map CommitObject.id
    have hunvisited : ∀ n ∈ s.run.nodes, n.commitId ≠ d.id := fun n hn hid =>
      hnew n hn (hid ▸ hids.subset List.mem_cons_self)
    obtain ⟨s₁, hadvance, hnodes, hs₁⟩ := advance_line
      (a := ⟨node, ObjectStore.commitOf c, path, m, e⟩) hg hversions hbuilt haccepted hkept hs
      hunvisited
    -- the commits behind the one it has jumped to are all new, since a line has no commit twice
    have hbehind : d :: older <:+ c :: p :: before := hsuffix.trans (List.suffix_cons c _)
    have hnew₁ : ∀ n ∈ s₁.run.nodes, n.commitId ∉ older.map CommitObject.id := by
      intro n hn hold
      rw [hnodes] at hn
      rcases List.mem_append.mp hn with hn | hn
      · exact hnew n hn (hids.subset (List.mem_cons_of_mem _ hold))
      · obtain rfl := List.mem_singleton.mp hn
        exact (List.nodup_cons.mp (hline.suffix hbehind).nodup).1 hold
    obtain ⟨fuel, rfl⟩ := Nat.exists_eq_add_of_le' (Nat.le_trans (Nat.le_add_left 1 _) hfuel)
    have hlength := hsuffix.length_le
    simp only [List.length_cons] at hlength hfuel
    obtain ⟨s₂, hsteps, hall⟩ := ih (hline.suffix hbehind) (htell.suffix hbehind) rfl
      s.run.nodes.length hs₁ hnew₁ fuel (by omega)
    refine ⟨s₂, (steps_advance (hbudget s) hadvance fuel).trans hsteps, ?_⟩
    rw [hall, hnodes, List.map_append, List.append_assoc]
    rfl

end Walker

/-- **No revision of a linear history is skipped or visited twice.**  In a line of commits that all
have a file, where the element is found again in each version of the file, a walk without a budget
comes to the commit that it starts from and to those before it that added or changed the file, the
latest first. -/
theorem linear_history_visits_touching [Score α] {w : Walker σ α} {g : ObjectStore}
    (hg : w.repository = g.repository) (hcommits : w.config.maxCommits = none)
    (hseconds : w.config.maxSeconds = none) (hcancelled : ∀ world, w.cancelled world = false)
    {path : String} {start : CommitObject} {before : List CommitObject}
    (hline : g.Line path (start :: before)) (htell : g.TellsNearest path (start :: before))
    {m : Model} {e : Element} (hfollow : w.FollowedBack path m e (g.touching path before))
    {x : Session σ} (hx : w.Remembers x.cache) {fuel : Nat} (hfuel : before.length + 2 ≤ fuel) :
    ∃ h x', w.history fuel (ObjectStore.commitOf start) path m e x = (.ok h, x') ∧
      h.nodes.map (fun n => (n.commitId, n.path))
        = (start :: g.touching path before).map (fun c => (c.id, path)) ∧
      (h.nodes.map HistoryNode.commitId).Nodup := by
  let seed : Active := ⟨0, ObjectStore.commitOf start, path, m, e⟩
  have hnodup := hline.nodup
  have hnew : ∀ n ∈ (Walker.opening seed x : WalkState σ α).run.nodes,
      n.commitId ∉ before.map CommitObject.id := by
    intro n hn
    obtain rfl := List.mem_singleton.mp hn
    exact (List.nodup_cons.mp hnodup).1
  obtain ⟨s, hsteps, hnodes⟩ := Walker.steps_line hg
    (fun _ => Walker.outOfBudget_eq_false hcommits hseconds hcancelled) hline htell hfollow rfl
    0 (s := Walker.opening seed x) hx hnew fuel hfuel
  have htold := (w.history_told fuel seed rfl x).1
  rw [hsteps] at htold
  refine ⟨s.run.toHistory, _, Prod.ext htold rfl, hnodes, ?_⟩
  have hids : s.run.nodes.map HistoryNode.commitId
      = (start :: g.touching path before).map CommitObject.id := by
    have hfirst := congrArg (List.map Prod.fst) hnodes
    rw [List.map_map, List.map_append, List.map_map, List.map_map] at hfirst
    exact hfirst
  show (s.run.nodes.map HistoryNode.commitId).Nodup
  rw [hids]
  exact hnodup.sublist (((ObjectStore.touching_sublist before).cons_cons start).map _)

/-! ### A line with commits that did not touch the file -/

/-- Whether an element is found again in versions of a file, as `FollowedBack` says. -/
def Walker.followsBack [Score α] (w : Walker Unit α) (path : String) :
    Model → Element → List CommitObject → Bool
  | _, _, [] => true
  | m, e, d :: ds =>
    match (SessionM.buildModel w.repository w.build d.id path ⟨(), {}, []⟩).1 with
    | .ok (.model m') =>
      match (Lookup.mk e m m').search w.matching with
      | .accepted _ found kind => kind != .extract && followsBack w path m' found.element ds
      | .rejected _ | .nothing => false
    | .ok .unparseable | .error _ => false

theorem Walker.followedBack_of_followsBack [Score α] {w : Walker Unit α} {path : String} {m : Model}
    {e : Element} {ds : List CommitObject} (h : w.followsBack path m e ds = true) :
    w.FollowedBack path m e ds := by
  induction ds generalizing m e with
  | nil => exact .done
  | cons d ds ih =>
    rw [followsBack] at h
    split at h
    · next m' hbuilt =>
      split at h
      · next tier found kind haccepted =>
        rw [Bool.and_eq_true, bne_iff_ne] at h
        exact .step ⟨_, hbuilt⟩ haccepted h.1 (ih h.2)
      all_goals cases h
    all_goals cases h

/-- A commit with a file that gives a variable its value. -/
def assigning (id : String) (parents : List String) (value : String) : CommitRecord :=
  { id, parents, files := [("x.py", ("v = " ++ value ++ "\n").toUTF8.toList)] }

/-- Five commits, of which the first and the third touched the file. -/
def untouchedRuns : Archive :=
  { commits := [assigning "r" [] "1", assigning "a" ["r"] "1", assigning "b" ["a"] "2",
      assigning "c" ["b"] "2", assigning "m" ["c"] "2"]
    head := "m" }

/-- The commits before the last one, the latest first. -/
def untouchedBefore : List CommitObject :=
  [assigning "c" ["b"] "2", assigning "b" ["a"] "2", assigning "a" ["r"] "1",
    assigning "r" [] "1"].map Archive.objectOf

/-- A walker over the stored commits as a Git repository. -/
def untouchedWalker : Walker Unit Float :=
  { (untouchedRuns.fixedTracker "x.py" (.variableAt none "v" 1)).walker with
    repository := untouchedRuns.objectStore.repository }

theorem untouchedRuns_follows :
    (match Model.ofBytes (fun _ => none) "v = 2\n".toUTF8.toList "x.py" with
    | .ok m => m.elements[0]?.any fun e => untouchedWalker.followsBack "x.py" m e
        (untouchedRuns.objectStore.touching "x.py" untouchedBefore)
    | .error _ => false) = true := by
  decide +kernel

deriving instance DecidableEq for CommitObject

/-- The walk starts at a commit that did not touch the file, and jumps over two more. -/
theorem linear_history_visits_touching_untouchedRuns : ∃ m e h x',
    untouchedRuns.objectStore.Line "x.py"
      (Archive.objectOf (assigning "m" ["c"] "2") :: untouchedBefore) ∧
    untouchedRuns.objectStore.TellsNearest "x.py"
      (Archive.objectOf (assigning "m" ["c"] "2") :: untouchedBefore) ∧
    untouchedWalker.FollowedBack "x.py" m e
      (untouchedRuns.objectStore.touching "x.py" untouchedBefore) ∧
    untouchedWalker.history 6 (ObjectStore.commitOf (Archive.objectOf (assigning "m" ["c"] "2")))
      "x.py" m e ⟨(), {}, []⟩ = (.ok h, x') ∧
    h.nodes.map (fun n => (n.commitId, n.path)) = [("m", "x.py"), ("b", "x.py"), ("r", "x.py")] := by
  have hline : untouchedRuns.objectStore.Line "x.py"
      (Archive.objectOf (assigning "m" ["c"] "2") :: untouchedBefore) :=
    .step ⟨rfl, rfl, rfl⟩ rfl <| .step ⟨rfl, rfl, rfl⟩ rfl <| .step ⟨rfl, rfl, rfl⟩ rfl <|
      .step ⟨rfl, rfl, rfl⟩ rfl <| .root ⟨rfl, rfl, rfl⟩ rfl
  have htell : untouchedRuns.objectStore.TellsNearest "x.py"
      (Archive.objectOf (assigning "m" ["c"] "2") :: untouchedBefore) :=
    .cons (by decide +kernel) <| .cons (by decide +kernel) <| .cons (by decide +kernel) <|
      .cons (by decide +kernel) <| .cons (by decide +kernel) ObjectStore.tellsNearest_nil
  have hfollows := untouchedRuns_follows
  split at hfollows
  · next m hm =>
    obtain ⟨e, he, hfollows⟩ := (Option.any_eq_true ..).mp hfollows
    have hfollow := Walker.followedBack_of_followsBack hfollows
    have hfuel : untouchedBefore.length + 2 ≤ 6 := by decide
    obtain ⟨h, x', hh, hnodes, -⟩ := linear_history_visits_touching (w := untouchedWalker) rfl rfl
      rfl (fun _ => rfl) hline htell hfollow (x := ⟨(), {}, []⟩) Walker.remembers_empty hfuel
    exact ⟨m, e, h, x', hline, htell, hfollow, hh, hnodes.trans (by decide +kernel)⟩
  · cases hfollows

end Lineage
