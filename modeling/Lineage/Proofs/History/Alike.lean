import Lineage.Proofs.History.Steady

/-! # Walks from states that are alike

Two walks of one element in a repository that does not change need not go through the same
states: the one finds a model in the cache that the other has to build, and the counters and
events tell the two apart.  What they share is the graph of the run.  They also share what
stops them from outside, as long as cancellation and time go by a *clock* of the world that
questions move in step and reading a file leaves alone (`Walker.TimedBy`).

States that share both are `Walker.Alike`.  From such states an action has one outcome and
leaves states that are alike again (`Walk.Uniform`).  This is closed under sequencing, so it
holds of looking into an earlier version, of recording what is found there, of a step and of
a whole walk (`history_alike`).
-/
namespace Lineage
variable {σ τ α : Type}

/-! ### Clocks -/

/-- Questions move a clock in step; reading a file leaves it alone. -/
structure Repository.Advances (r : Repository σ) (clock : σ → τ) : Prop where
  resolve : ∀ id s s', clock s = clock s' →
    clock (r.resolve id s).2.2 = clock (r.resolve id s').2.2
  parentsTouching : ∀ id path s s', clock s = clock s' →
    clock (r.parentsTouching id path s).2.2 = clock (r.parentsTouching id path s').2.2
  readBlob : ∀ id path s, clock (r.readBlob id path s).2.2 = clock s
  changedPaths : ∀ id parent s s', clock s = clock s' →
    clock (r.changedPaths id parent s).2.2 = clock (r.changedPaths id parent s').2.2

/-- The walk is stopped from outside: it was cancelled, or its time is up. -/
def Walker.stopped (w : Walker σ α) (world : σ) : Bool :=
  w.cancelled world || w.config.maxSeconds.any (· ≤ w.elapsed world)

/-- Whether a walk is stopped from outside can be read off a clock. -/
structure Walker.TimedBy (w : Walker σ α) (clock : σ → τ) : Prop where
  advances : w.repository.Advances clock
  stopped : ∀ s s', clock s = clock s' → w.stopped s = w.stopped s'

/-- Every repository moves the clock that stands still. -/
theorem Repository.advances_still (r : Repository σ) : r.Advances fun _ => () :=
  ⟨fun _ _ _ _ => rfl, fun _ _ _ _ _ => rfl, fun _ _ _ => rfl, fun _ _ _ _ _ => rfl⟩

/-- A walk that is never stopped from outside goes by the clock that stands still. -/
theorem Walker.timedBy_still {w : Walker σ α} (h : ∀ s, w.stopped s = false) :
    w.TimedBy fun _ => () :=
  ⟨w.repository.advances_still, fun s s' _ => (h s).trans (h s').symm⟩

theorem Walker.outOfBudget_eq (w : Walker σ α) (s : WalkState σ α) :
    w.outOfBudget s = (w.stopped s.session.world
      || w.config.maxCommits.any (· ≤ s.run.report.commitsAnalysed)) := by
  unfold outOfBudget stopped
  exact Bool.or_right_comm _ _ _

/-- The walkers put their questions to one repository and build models in one way. -/
structure Walker.Shares {β : Type} (w : Walker σ α) (w' : Walker σ β) : Prop where
  repository : w'.repository = w.repository
  build : w'.build = w.build

/-- What a cache has to hold is a matter of the repository and the builder. -/
theorem Walker.Shares.remembers_iff {β : Type} {w : Walker σ α} {w' : Walker σ β} {c : Cache}
    (h : w.Shares w') : w'.Remembers c ↔ w.Remembers c := by
  have hbuilds : ∀ id path m, w'.Builds id path m ↔ w.Builds id path m := by
    intro id path m
    unfold Builds
    rw [h.repository, h.build]
  constructor
  · exact fun hc => ⟨hc.idle, fun id path m hm => (hbuilds id path m).mp (hc.entries id path m hm)⟩
  · exact fun hc => ⟨hc.idle, fun id path m hm => (hbuilds id path m).mpr (hc.entries id path m hm)⟩

theorem Walker.Shares.steady {β : Type} {w : Walker σ α} {w' : Walker σ β} (h : w.Shares w')
    (hr : w.repository.Steady) : w'.repository.Steady := h.repository ▸ hr

/-- What runs with one graph share. -/
theorem Run.of_graph {r r' : Run α} (h : r.graph = r'.graph) :
    r.nodes = r'.nodes ∧ r.edges = r'.edges ∧ r.terminations = r'.terminations ∧
      r.budgetExceeded = r'.budgetExceeded ∧
      r.report.commitsAnalysed = r'.report.commitsAnalysed := by
  show r.graph.nodes = r'.graph.nodes ∧ r.graph.edges = r'.graph.edges ∧
    r.graph.terminations = r'.graph.terminations ∧
    r.graph.budgetExceeded = r'.graph.budgetExceeded ∧
    r.graph.report.commitsAnalysed = r'.graph.report.commitsAnalysed
  rw [h]
  exact ⟨rfl, rfl, rfl, rfl, rfl⟩

/-! ### Uniform actions -/

namespace Walk
variable {β γ : Type} {R : WalkState σ α → WalkState σ α → Prop} {x : Walk σ α β}

/-- From states that are related the action has one outcome, and leaves states that are related. -/
def Uniform (R : WalkState σ α → WalkState σ α → Prop) (x : Walk σ α β) : Prop :=
  ∀ s s', R s s' → (x s).1 = (x s').1 ∧ R (x s).2 (x s').2

theorem uniform_pure (b : β) : Uniform R (pure b) := fun _ _ h => ⟨rfl, h⟩

theorem uniform_bind {f : β → Walk σ α γ} (hx : Uniform R x) (hf : ∀ b, Uniform R (f b)) :
    Uniform R (x >>= f) := by
  intro s s' h
  obtain ⟨hsame, hnext⟩ := hx s s' h
  rcases houtcome : (x s).1 with e | b
  · rw [bind_of_error houtcome, bind_of_error (hsame.symm.trans houtcome)]
    exact ⟨rfl, hnext⟩
  · rw [bind_of_ok houtcome, bind_of_ok (hsame.symm.trans houtcome)]
    exact hf b _ _ hnext

theorem uniform_attempt (hx : Uniform R x) : Uniform R (attempt x) := by
  intro s s' h
  obtain ⟨hsame, hnext⟩ := hx s s' h
  rw [(attempt_apply s).1, (attempt_apply s').1, (attempt_apply s).2, (attempt_apply s').2, hsame]
  exact ⟨rfl, hnext⟩

theorem uniform_mapM {ι : Type} {f : ι → Walk σ α β} (hf : ∀ i, Uniform R (f i)) (is : List ι) :
    Uniform R (is.mapM f) := by
  induction is with
  | nil => exact uniform_pure []
  | cons i is ih =>
    rw [List.mapM_cons]
    exact uniform_bind (hf i) fun _ => uniform_bind ih fun _ => uniform_pure _

/-! ### The world -/

theorem terminate_world (t : Termination) (s : WalkState σ α) :
    (terminate t s).2.session.world = s.session.world := by
  unfold terminate
  rw [bind_apply, get_apply]
  dsimp only
  split <;> rfl

theorem stopAll_world (a : Active) (rest : List Branch) (s : WalkState σ α) :
    (stopAll a rest s).2.session.world = s.session.world := by
  have hcut : ∀ (bs : List Branch) (s : WalkState σ α),
      (bs.forM (fun b => terminate b.cut) s).2.session.world = s.session.world := by
    intro bs
    induction bs with
    | nil => exact fun _ => rfl
    | cons b bs ih =>
      intro s
      obtain ⟨s₁, hend, -⟩ := terminate_apply b.cut s
      have hworld := terminate_world b.cut s
      rw [hend] at hworld
      show ((terminate b.cut >>= fun _ => bs.forM fun b => terminate b.cut) s).2.session.world = _
      rw [bind_apply, hend]
      exact (ih s₁).trans hworld
  unfold stopAll
  rw [bind_apply, onRun_apply]
  dsimp only
  rw [bind_apply, get_apply]
  dsimp only
  exact hcut (.active a :: rest) _

end Walk

namespace SessionM
open Walk
variable {r : Repository σ} {build : ModelBuilder} {clock : σ → τ}

theorem buildModel_world (id path : String) (s : Session σ) :
    (buildModel r build id path s).2.world = (r.readBlob id path s.world).2.2 := by
  unfold buildModel
  rcases hbytes : (ask (r.readBlob id path) s).1 with stop | bytes
  · rw [bind_of_error hbytes]
    rfl
  · rw [bind_of_ok hbytes]
    rcases build bytes path with fault | m
    · cases fault <;> rfl
    · rfl

/-- The cache may spare a read; the clock does not notice. -/
theorem modelOf_clock (hr : r.Advances clock) (id path : String) (s : Session σ) :
    clock (modelOf r build id path s).2.world = clock s.world := by
  have hbuilt : ∀ s : Session σ, clock (buildModel r build id path s).2.world = clock s.world :=
    fun s => (congrArg clock (buildModel_world id path s)).trans (hr.readBlob id path s.world)
  have hrequest : SessionM.request (id, path) s
      = (.ok (s.cache.request (id, path)).1,
        { s with cache := (s.cache.request (id, path)).2 }) := rfl
  unfold modelOf
  rw [bind_apply, hrequest]
  rcases s.cache.request (id, path) with ⟨_ | _ | _, c⟩
  · rfl
  · rfl
  · have h := hbuilt { s with cache := c }
    dsimp only
    rw [bind_apply, tryCatch_apply]
    revert h
    rcases buildModel r build id path { s with cache := c } with ⟨stop | m, s₁⟩ <;> exact fun h => h

end SessionM

namespace Walker
open Walk
variable {β : Type}

theorem parentVersions_world (r : Repository σ) (id path : String) (s : Session σ) :
    (parentVersions r id path s).2.world = (r.parentsTouching id path s.world).2.2 := by
  rcases hask : (SessionM.ask (r.parentsTouching id path) s).1 with stop | vs
  · rw [parentVersions, bind_of_error hask]
    rfl
  · rw [parentVersions, bind_of_ok hask]
    rfl

theorem extend_world (w : Walker σ α) (origin : Active) (m : Match α) (s : WalkState σ α) :
    (w.extend origin m s).2.session.world = s.session.world := by
  unfold extend
  rw [bind_apply, get_apply]
  dsimp only
  rw [s.run.nodeFor_eq, bind_apply, onRun_apply]
  dsimp only
  rw [bind_apply, onRun_apply]
  dsimp only
  rw [bind_apply]
  cases s.run.known? m with
  | some i => rfl
  | none =>
    simp only [Option.isNone_none, Bool.not_true, Bool.false_eq_true, if_false]
    by_cases hx : (m.kind = .extract && s.run.kind.stopsAtExtraction) = true
    · rw [if_pos hx]
      rfl
    · rw [if_neg hx]
      rfl

theorem record_world (w : Walker σ α) (origin : Active) (x : Finding α) (s : WalkState σ α) :
    (w.record origin x s).2.session.world = s.session.world := by
  cases x with
  | failed t | absent => rfl
  | found m =>
    have hworld := w.extend_world origin m s
    obtain ⟨s', hs', -⟩ := w.extend_apply origin m s
    rw [hs'] at hworld
    show ((w.extend origin m >>= fun bs => pure (Resolution.matched bs)) s).2.session.world = _
    rw [bind_apply, hs']
    exact hworld

/-! ### States that are alike -/

/-- The states share the graph of the run and the clock, and their caches are right. -/
structure Alike (w : Walker σ α) (clock : σ → τ) (s s' : WalkState σ α) : Prop where
  graph : s.run.graph = s'.run.graph
  clock : clock s.session.world = clock s'.session.world
  left : w.Remembers s.session.cache
  right : w.Remembers s'.session.cache

variable {w : Walker σ α} {clock : σ → τ} {x : Walk σ α β} {P : β → Prop} {s s' : WalkState σ α}

/-- Reading is uniform if the repository is steady and the clock moves in step. -/
theorem uniform_of_steady (hx : Steady w.Remembers x P) (hreads : Reads x)
    (hclock : ∀ s s', clock s.session.world = clock s'.session.world →
      clock (x s).2.session.world = clock (x s').2.session.world) :
    Uniform (w.Alike clock) x := fun s s' h =>
  ⟨hx.same s s' h.left h.right,
    { graph := (hreads s).trans (h.graph.trans (hreads s').symm)
      clock := hclock s s' h.clock
      left := hx.keeps s h.left
      right := hx.keeps s' h.right }⟩

theorem uniform_tell (level : Level) (name : String) (fields : List (String × Json)) :
    Uniform (w.Alike clock) (tell level name fields) :=
  uniform_of_steady (steady_tell level name fields) (reads_tell level name fields)
    fun _ _ h => h

/-- What is counted besides expansions does not matter. -/
theorem uniform_onReport {f : Report → Report}
    (hf : ∀ r : Run α, (r.onReport f).graph = (r.graph.onReport f).graph) :
    Uniform (w.Alike clock) (onRun (Run.onReport f)) := fun s s' h =>
  ⟨rfl, { graph := by rw [onRun_apply, onRun_apply, hf s.run, hf s'.run, h.graph]
          clock := h.clock
          left := h.left
          right := h.right }⟩

variable (w) in
theorem uniform_modelOf (hr : w.repository.Steady) (hclock : w.repository.Advances clock)
    (id path : String) : Uniform (w.Alike clock) (w.modelOf id path) := by
  refine uniform_of_steady (w.steady_modelOf hr id path) (w.reads_modelOf id path) ?_
  intro s s' h
  rw [(w.modelOf_session id path s).2, (w.modelOf_session id path s').2]
  exact (SessionM.modelOf_clock hclock id path s.session).trans
    (h.trans (SessionM.modelOf_clock hclock id path s'.session).symm)

theorem uniform_parentVersions (hr : w.repository.Steady) (hclock : w.repository.Advances clock)
    (id path : String) :
    Uniform (w.Alike clock)
      (inSession (parentVersions w.repository id path) : Walk σ α (List ParentVersion)) := by
  refine uniform_of_steady (w.steady_parentVersions hr id path) (reads_inSession _) ?_
  intro s s' h
  show clock (parentVersions w.repository id path s.session).2.world
    = clock (parentVersions w.repository id path s'.session).2.world
  rw [parentVersions_world, parentVersions_world]
  exact hclock.parentsTouching id path _ _ h

theorem Alike.after_terminate (h : w.Alike clock s s') (t : Termination) :
    w.Alike clock (terminate t s).2 (terminate t s').2 := by
  have hworld := terminate_world t s
  have hworld' := terminate_world t s'
  obtain ⟨s₁, hend, hrun, hcache⟩ := terminate_apply t s
  obtain ⟨s₁', hend', hrun', hcache'⟩ := terminate_apply t s'
  rw [hend] at hworld ⊢
  rw [hend'] at hworld' ⊢
  refine ⟨?_, ?_, hcache ▸ h.left, hcache' ▸ h.right⟩
  · show s₁.run.graph = s₁'.run.graph
    rw [hrun, hrun']
    exact (s.run.finish_onReport _ t).symm.trans
      ((congrArg (Run.finish · t) h.graph).trans (s'.run.finish_onReport _ t))
  · exact (congrArg clock hworld).trans (h.clock.trans (congrArg clock hworld').symm)

theorem uniform_terminate (t : Termination) : Uniform (w.Alike clock) (terminate t) := by
  intro s s' h
  refine ⟨?_, h.after_terminate t⟩
  obtain ⟨_, hend, -⟩ := terminate_apply t s
  obtain ⟨_, hend', -⟩ := terminate_apply t s'
  rw [hend, hend']

theorem uniform_stopAll (a : Active) (rest : List Branch) :
    Uniform (w.Alike clock) (stopAll a rest) := by
  intro s s' h
  have hworld := stopAll_world a rest s
  have hworld' := stopAll_world a rest s'
  obtain ⟨s₁, hstop, hrun, hcache⟩ := stopAll_apply a rest s
  obtain ⟨s₁', hstop', hrun', hcache'⟩ := stopAll_apply a rest s'
  rw [hstop] at hworld ⊢
  rw [hstop'] at hworld' ⊢
  refine ⟨rfl, ?_, ?_, hcache ▸ h.left, hcache' ▸ h.right⟩
  · show s₁.run.graph = s₁'.run.graph
    rw [hrun, hrun']
    have hgraph := fun r : Run α =>
      ({ r with budgetExceeded := true } : Run α).foldl_finish_onReport
        (fun p => { commitsAnalysed := p.commitsAnalysed, processing := p.processing })
        (.active a :: rest)
    refine (hgraph s.run).symm.trans (.trans ?_ (hgraph s'.run))
    exact congrArg (fun r : Run α => (Branch.active a :: rest).foldl (fun r b => r.finish b.cut)
      { r with budgetExceeded := true }) h.graph
  · exact (congrArg clock hworld).trans (h.clock.trans (congrArg clock hworld').symm)

theorem uniform_record (origin : Active) (x : Finding α) :
    Uniform (w.Alike clock) (w.record origin x) := by
  intro s s' h
  have hworld := w.record_world origin x s
  have hworld' := w.record_world origin x s'
  obtain ⟨s₁, hrec, hrun, hcache⟩ := w.record_apply origin x s
  obtain ⟨s₁', hrec', hrun', hcache'⟩ := w.record_apply origin x s'
  rw [hrec] at hworld ⊢
  rw [hrec'] at hworld' ⊢
  refine ⟨?_, ?_, ?_, hcache ▸ h.left, hcache' ▸ h.right⟩
  · have hsame : s.run.resolve x = s'.run.resolve x :=
      (s.run.resolve_onReport _ x).symm.trans
        ((congrArg (Run.resolve · x) h.graph).trans (s'.run.resolve_onReport _ x))
    exact congrArg Except.ok hsame
  · show s₁.run.graph = s₁'.run.graph
    rw [hrun, hrun']
    exact (s.run.absorb_onReport _ origin x).symm.trans
      ((congrArg (Run.absorb · origin x) h.graph).trans (s'.run.absorb_onReport _ origin x))
  · exact (congrArg clock hworld).trans (h.clock.trans (congrArg clock hworld').symm)

/-! ### Looking -/

section Looking
variable [Score α] (hr : w.repository.Steady) (hclock : w.repository.Advances clock)
include hr hclock

theorem uniform_matchIn (origin : Active) (commit : Commit) (path : String) :
    Uniform (w.Alike clock) (w.matchIn origin commit path) := by
  refine uniform_bind (w.uniform_modelOf hr hclock _ _) fun cached => ?_
  cases cached with
  | unparseable => exact uniform_pure _
  | model earlier =>
    dsimp only
    split
    · exact uniform_bind (uniform_onReport fun _ => rfl) fun _ => uniform_pure _
    · exact uniform_bind (uniform_tell _ _ _) fun _ => uniform_pure _
    · exact uniform_pure _

theorem uniform_searchFiles (origin : Active) (parent : Commit) (paths : List String)
    (best : Option (Match α)) :
    Uniform (w.Alike clock) (w.searchFiles origin parent paths best) := by
  induction paths generalizing best with
  | nil => exact uniform_pure _
  | cons path rest ih =>
    refine uniform_bind (uniform_attempt (w.uniform_modelOf hr hclock _ _)) fun answer => ?_
    split
    · exact uniform_bind (uniform_tell _ _ _) fun _ => ih _
    · exact ih _
    · split
      · exact ih _
      · exact ih _

theorem uniform_findMoved (origin : Active) (parentId : String) :
    Uniform (w.Alike clock) (w.findMoved origin parentId) := by
  have hask : ∀ {β : Type} {q : Asked σ β}, q.Steady →
      (∀ s s', clock s = clock s' → clock (q s).2.2 = clock (q s').2.2) →
      Uniform (w.Alike clock) (attempt (inSession (.ask q))) := fun hq hmoves =>
    uniform_attempt (uniform_of_steady (steady_ask hq) (reads_inSession _) fun _ _ h =>
      hmoves _ _ h)
  refine uniform_bind (hask (hr.changedPaths _ _) (hclock.changedPaths _ _)) fun answer => ?_
  split
  · exact uniform_bind (uniform_tell _ _ _) fun _ => uniform_pure _
  · dsimp only
    split
    · exact uniform_pure _
    · refine uniform_bind (hask (hr.resolve _) (hclock.resolve _)) fun answer => ?_
      split
      · exact uniform_bind (uniform_tell _ _ _) fun _ => uniform_pure _
      · refine uniform_bind (uniform_searchFiles hr hclock _ _ _ _) fun best => ?_
        split
        · exact uniform_bind (uniform_tell _ _ _) fun _ => uniform_pure _
        · exact uniform_pure _

theorem uniform_followMove (origin : Active) (parentId : String) :
    Uniform (w.Alike clock) (w.followMove origin parentId) := by
  unfold followMove
  split
  · exact uniform_findMoved hr hclock origin parentId
  · exact uniform_pure _

theorem uniform_examine (origin : Active) (v : ParentVersion) :
    Uniform (w.Alike clock) (w.examine origin v) := by
  refine uniform_bind (uniform_attempt (uniform_matchIn hr hclock _ _ _)) fun answer => ?_
  rcases answer with f | m | _ | _
  · exact uniform_bind (uniform_tell _ _ _) fun _ => uniform_pure _
  · exact uniform_pure _
  · exact uniform_bind (uniform_followMove hr hclock _ _) fun _ => uniform_pure _
  · exact uniform_pure _

theorem uniform_resolveVersion (origin : Active) (v : ParentVersion) :
    Uniform (w.Alike clock) (w.resolveVersion origin v) := by
  rw [w.resolveVersion_eq]
  exact uniform_bind (uniform_examine hr hclock origin v) fun x => uniform_record origin x

theorem uniform_movesFrom (a : Active) (parentId : String) :
    Uniform (w.Alike clock) (w.movesFrom a parentId) := by
  rw [w.movesFrom_eq, ← bind_pure_comp]
  refine uniform_bind (uniform_bind (uniform_bind (uniform_followMove hr hclock a parentId) fun _ =>
    uniform_pure _) fun x => uniform_record a x) fun _ => uniform_pure _

/-! ### Walking -/

theorem uniform_resolve (origin : Active) (pending : List ParentVersion) :
    Uniform (w.Alike clock) (w.resolve origin pending) :=
  uniform_bind (uniform_mapM (uniform_resolveVersion hr hclock origin) pending) fun _ =>
    uniform_pure _

theorem uniform_nextBranches (a : Active) : Uniform (w.Alike clock) (w.nextBranches a) := by
  refine uniform_bind (uniform_onReport fun _ => rfl) fun _ =>
    uniform_bind (uniform_attempt (uniform_parentVersions hr hclock _ _)) fun answer => ?_
  rcases answer with f | _ | ⟨v, _ | ⟨v', vs⟩⟩
  · exact uniform_bind (uniform_tell _ _ _) fun _ => uniform_pure _
  · refine uniform_bind (uniform_mapM (uniform_movesFrom hr hclock a) _) fun bss => ?_
    dsimp only
    split <;> exact uniform_pure _
  · exact uniform_resolve hr hclock a [v]
  · exact uniform_bind (uniform_tell _ _ _) fun _ => uniform_pure _

theorem uniform_advance (a : Active) : Uniform (w.Alike clock) (w.advance a) :=
  uniform_bind (uniform_onReport fun _ => rfl) fun _ =>
    uniform_bind (uniform_nextBranches hr hclock a) fun _ =>
      uniform_bind (uniform_onReport fun _ => rfl) fun _ => uniform_pure _

end Looking

theorem Alike.outOfBudget (hw : w.TimedBy clock) (h : w.Alike clock s s') :
    w.outOfBudget s = w.outOfBudget s' := by
  obtain ⟨-, -, -, -, hcommits⟩ := Run.of_graph h.graph
  rw [outOfBudget_eq, outOfBudget_eq, hw.stopped _ _ h.clock, hcommits]

variable [Score α]

variable (w) in
/-- A version is expanded while the budget lasts. -/
theorem step_active (a : Active) (rest : List Branch) (s : WalkState σ α) :
    w.step (.active a) rest s =
      if w.outOfBudget s then (stopAll a rest >>= fun _ => pure []) s
      else (w.advance a >>= fun bs => pure (rest ++ bs)) s := by
  unfold step
  dsimp only
  rw [bind_apply, get_apply]
  dsimp only
  split <;> rfl

section Keeping
variable (hr : w.repository.Steady)
include hr

/-- A step keeps the cache right, whatever its outcome is. -/
theorem remembers_step (first : Branch) (rest : List Branch) (hs : w.Remembers s.session.cache) :
    w.Remembers (w.step first rest s).2.session.cache := by
  -- a state is like itself, whatever stops the walk
  have hself : w.Alike (fun _ => ()) s s := ⟨rfl, rfl, hs, hs⟩
  have hstill := w.repository.advances_still
  cases first with
  | terminated t =>
    exact (uniform_bind (uniform_terminate t) (fun _ => uniform_pure rest) s s hself).2.left
  | branching origin pending =>
    exact (uniform_bind (uniform_resolve hr hstill origin pending)
      (fun bs => uniform_pure (rest ++ bs)) s s hself).2.left
  | active a =>
    rw [step_active]
    split
    · exact (uniform_bind (uniform_stopAll a rest) (fun _ => uniform_pure []) s s hself).2.left
    · exact (uniform_bind (uniform_advance hr hstill a) (fun bs => uniform_pure (rest ++ bs))
        s s hself).2.left

theorem remembers_steps (fuel : Nat) (work : List Branch) (hs : w.Remembers s.session.cache) :
    w.Remembers (w.steps fuel work s).2.session.cache := by
  induction fuel generalizing work s with
  | zero => cases work <;> exact hs
  | succ fuel ih =>
    cases work with
    | nil => exact hs
    | cons first rest =>
      have hnext := remembers_step hr first rest hs
      rw [steps]
      rcases hstep : (w.step first rest s).1 with stop | work
      · rw [bind_of_error hstep]
        exact hnext
      · rw [bind_of_ok hstep]
        exact ih work hnext

end Keeping

variable (hr : w.repository.Steady) (hw : w.TimedBy clock)
include hr hw

theorem uniform_step (first : Branch) (rest : List Branch) :
    Uniform (w.Alike clock) (w.step first rest) := by
  cases first with
  | terminated t => exact uniform_bind (uniform_terminate t) fun _ => uniform_pure _
  | branching origin pending =>
    exact uniform_bind (uniform_resolve hr hw.advances origin pending) fun _ => uniform_pure _
  | active a =>
    intro s s' h
    rw [step_active, step_active, h.outOfBudget hw]
    split
    · exact uniform_bind (uniform_stopAll a rest) (fun _ => uniform_pure _) s s' h
    · exact uniform_bind (uniform_advance hr hw.advances a) (fun _ => uniform_pure _) s s' h

/-- **Walks that start alike stay alike.** -/
theorem uniform_steps (fuel : Nat) (work : List Branch) :
    Uniform (w.Alike clock) (w.steps fuel work) := by
  induction fuel generalizing work with
  | zero => cases work <;> exact uniform_pure _
  | succ fuel ih =>
    cases work with
    | nil => exact uniform_pure _
    | cons first rest => exact uniform_bind (uniform_step hr hw first rest) fun work => ih work

end Walker

/-! ### Histories -/

/-- A history without the counters of questions and of the cache. -/
def History.graph (h : History α) : History α :=
  { h with report := { commitsAnalysed := h.report.commitsAnalysed
                       processing := h.report.processing } }

namespace Walker
open Walk
variable {w : Walker σ α} {clock : σ → τ} {fuel : Nat} {commit : Commit} {path : String} {m : Model}
  {e : Element} {x x' : Session σ}

/-- What is told of a walk that has taken some steps. -/
def told : Except Stop (List Branch) × WalkState σ α → Except Stop (History α)
  | (.ok [], s) => .ok s.run.toHistory
  | (.ok (_ :: _), _) => .error .unfinished
  | (.error stop, _) => .error stop

variable [Score α]

/-- The history of an element is what is told of the steps from it. -/
theorem history_told (w : Walker σ α) (fuel : Nat) (seed : Active) (hseed : seed.node = 0)
    (x : Session σ) :
    (w.history fuel seed.commit seed.path seed.model seed.element x).1
        = told (w.steps fuel [.active seed] (opening seed x)) ∧
      (w.history fuel seed.commit seed.path seed.model seed.element x).2.world
        = (w.steps fuel [.active seed] (opening seed x)).2.session.world ∧
      (w.history fuel seed.commit seed.path seed.model seed.element x).2.cache
        = (w.steps fuel [.active seed] (opening seed x)).2.session.cache := by
  obtain ⟨node, commit, path, m, e⟩ := seed
  obtain rfl : node = 0 := hseed
  have hopen : tell .info "history_started" [("commit", .text commit.shortId), ("path", .text path),
      ("element", .text e.qualifiedName), ("kind", .text e.kind.text)]
        (start commit path m e x : WalkState σ α × List Branch).1
      = (.ok (), opening ⟨0, commit, path, m, e⟩ x) := rfl
  have hwork : (start commit path m e x : WalkState σ α × List Branch).2
      = [.active ⟨0, commit, path, m, e⟩] := rfl
  unfold history
  dsimp only
  rw [bind_apply, hopen, hwork]
  dsimp only
  rw [bind_apply]
  rcases w.steps fuel [.active ⟨0, commit, path, m, e⟩] (opening ⟨0, commit, path, m, e⟩ x)
    with ⟨stop | _ | ⟨b, bs⟩, s⟩
  · exact ⟨rfl, rfl, rfl⟩
  · exact ⟨rfl, rfl, rfl⟩
  · exact ⟨rfl, rfl, rfl⟩

/-- A history that is told is that of steps that leave no branch open. -/
theorem steps_of_history {h : History α} (hh : w.history fuel commit path m e x = (.ok h, x')) :
    ∃ s, w.steps fuel [.active ⟨0, commit, path, m, e⟩] (opening ⟨0, commit, path, m, e⟩ x)
        = (.ok [], s) ∧ h = s.run.toHistory ∧ x'.cache = s.session.cache := by
  obtain ⟨htold, -, hcache⟩ := w.history_told fuel ⟨0, commit, path, m, e⟩ rfl x
  rw [show w.history fuel commit path m e x = (.ok h, x') from hh] at htold hcache
  rcases hsteps : w.steps fuel [.active ⟨0, commit, path, m, e⟩]
    (opening ⟨0, commit, path, m, e⟩ x) with ⟨stop | _ | ⟨b, bs⟩, s⟩ <;> rw [hsteps] at htold hcache
  · cases htold
  · exact ⟨s, rfl, Except.ok.inj htold, hcache⟩
  · cases htold

/-- Telling a history keeps the cache right, whatever comes of it. -/
theorem remembers_history (hr : w.repository.Steady) (hx : w.Remembers x.cache) :
    w.Remembers (w.history fuel commit path m e x).2.cache := by
  obtain ⟨-, -, hcache⟩ := w.history_told fuel ⟨0, commit, path, m, e⟩ rfl x
  exact hcache ▸ remembers_steps hr fuel _ hx

/-- **Walks that start alike tell one history**, up to the counters. -/
theorem history_alike (hr : w.repository.Steady) (hw : w.TimedBy clock) (hx : w.Remembers x.cache)
    (hx' : w.Remembers x'.cache) (hclock : clock x.world = clock x'.world) :
    (w.history fuel commit path m e x).1.map History.graph
      = (w.history fuel commit path m e x').1.map History.graph := by
  let seed : Active := ⟨0, commit, path, m, e⟩
  have hstart : w.Alike clock (opening seed x) (opening seed x') := ⟨rfl, hclock, hx, hx'⟩
  obtain ⟨hsame, hend⟩ := uniform_steps hr hw fuel [.active seed] _ _ hstart
  rw [(w.history_told fuel seed rfl x).1, (w.history_told fuel seed rfl x').1]
  revert hsame hend
  rcases w.steps fuel [.active seed] (opening seed x) with ⟨stop | _ | ⟨b, bs⟩, s⟩ <;>
    rcases w.steps fuel [.active seed] (opening seed x') with ⟨stop' | _ | ⟨b', bs'⟩, s'⟩ <;>
    intro hsame hend <;> cases hsame
  · rfl
  · exact congrArg (fun r : Run α => Except.ok r.toHistory) hend.graph
  · rfl

end Walker
end Lineage
