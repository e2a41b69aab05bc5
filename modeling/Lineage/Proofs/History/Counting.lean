import Lineage.Proofs.History.Alike

/-! # Counting the faults of a repository

A walk catches the faults of its repository at several places, and what it tells does not always
say that there was one.  To speak of all faults, the repository is given a world that counts them
(`Repository.counting`).  Nothing else changes: an action of the counting walk `Walk.Mirrors` the
one of the walk without a count, in outcome and state, and its count does not fall.  This is closed
under sequencing, so it holds from a single question up to the history that is told
(`Walker.history_counting`).
-/
namespace Lineage
variable {σ α : Type}

/-- Puts a question, and counts the fault if there is one. -/
def Asked.counting {β : Type} (q : Asked σ β) : Asked (σ × Nat) β := fun s =>
  match q s.1 with
  | (.error (.fault f), events, world) => (.error (.fault f), events, world, s.2 + 1)
  | (.error .unsupported, events, world) => (.error .unsupported, events, world, s.2)
  | (.ok b, events, world) => (.ok b, events, world, s.2)

/-- The repository, with a count of its faults in the world. -/
def Repository.counting (r : Repository σ) : Repository (σ × Nat) where
  resolve id := (r.resolve id).counting
  parentsTouching id path := (r.parentsTouching id path).counting
  readBlob id path := (r.readBlob id path).counting
  changedPaths id parent := (r.changedPaths id parent).counting

/-- The walker, with a count of the faults that its repository answers with. -/
def Walker.counting (w : Walker σ α) : Walker (σ × Nat) α where
  repository := w.repository.counting
  build := w.build
  matching := w.matching
  config := w.config
  shown := w.shown
  cancelled s := w.cancelled s.1
  elapsed s := w.elapsed s.1

namespace Session

/-- The session, with a count that starts at zero. -/
def counting (x : Session σ) : Session (σ × Nat) := ⟨(x.world, 0), x.cache, x.events⟩

/-- The session without the count. -/
def uncounted (x : Session (σ × Nat)) : Session σ := ⟨x.world.1, x.cache, x.events⟩

/-- The faults so far. -/
def faults (x : Session (σ × Nat)) : Nat := x.world.2

end Session

namespace WalkState

/-- The state without the count. -/
def uncounted (s : WalkState (σ × Nat) α) : WalkState σ α := ⟨s.session.uncounted, s.run⟩

/-- The faults so far. -/
def faults (s : WalkState (σ × Nat) α) : Nat := s.session.faults

end WalkState

theorem Asked.counting_fst {β : Type} (q : Asked σ β) (s : σ × Nat) :
    (q.counting s).1 = (q s.1).1 := by
  unfold counting
  split <;> rename_i h <;> rw [h]

/-! ### Mirrors -/

namespace Walk
variable {τ τ' β γ : Type} {view : τ' → τ} {count : τ' → Nat}

/-- One action does what the other one does as far as a view of its states goes, and a count of its
states does not fall. -/
structure Mirrors (view : τ' → τ) (count : τ' → Nat) (x' : ExceptT Stop (StateM τ') β)
    (x : ExceptT Stop (StateM τ) β) : Prop where
  same : ∀ s, x (view s) = ((x' s).1, view (x' s).2)
  grows : ∀ s, count s ≤ count (x' s).2

variable {x' : ExceptT Stop (StateM τ') β} {x : ExceptT Stop (StateM τ) β}

theorem mirrors_pure (b : β) : Mirrors view count (pure b) (pure b) :=
  ⟨fun _ => rfl, fun _ => Nat.le_refl _⟩

theorem mirrors_throw (stop : Stop) :
    Mirrors view count (throw stop : ExceptT Stop (StateM τ') β) (throw stop) :=
  ⟨fun _ => rfl, fun _ => Nat.le_refl _⟩

theorem mirrors_bind {f' : β → ExceptT Stop (StateM τ') γ} {f : β → ExceptT Stop (StateM τ) γ}
    (hx : Mirrors view count x' x) (hf : ∀ b, Mirrors view count (f' b) (f b)) :
    Mirrors view count (x' >>= f') (x >>= f) := by
  constructor <;> intro s <;> have hsame := hx.same s <;> have hgrown := hx.grows s <;>
    rcases houtcome : (x' s).1 with stop | b
  · have hstop : (x (view s)).1 = .error stop := (congrArg Prod.fst hsame).trans houtcome
    rw [bind_of_error houtcome, bind_of_error hstop, hsame]
  · have hok : (x (view s)).1 = .ok b := (congrArg Prod.fst hsame).trans houtcome
    rw [bind_of_ok houtcome, bind_of_ok hok, hsame]
    exact (hf b).same _
  · rw [bind_of_error houtcome]
    exact hgrown
  · rw [bind_of_ok houtcome]
    exact Nat.le_trans hgrown ((hf b).grows _)

/-- What follows may depend on the state, as far as the view of it goes. -/
theorem mirrors_get {f' : τ' → ExceptT Stop (StateM τ') β} {f : τ → ExceptT Stop (StateM τ) β}
    (hf : ∀ s, Mirrors view count (f' s) (f (view s))) :
    Mirrors view count (get >>= f') (get >>= f) :=
  ⟨fun s => (hf s).same s, fun s => (hf s).grows s⟩

theorem mirrors_modify {g' : τ' → τ'} {g : τ → τ} (hview : ∀ s, g (view s) = view (g' s))
    (hcount : ∀ s, count (g' s) = count s) :
    Mirrors view count (modify g' : ExceptT Stop (StateM τ') PUnit) (modify g) :=
  ⟨fun s => Prod.ext rfl (hview s), fun s => Nat.le_of_eq (hcount s).symm⟩

theorem mirrors_tryCatch {f' : Stop → ExceptT Stop (StateM τ') β}
    {f : Stop → ExceptT Stop (StateM τ) β} (hx : Mirrors view count x' x)
    (hf : ∀ stop, Mirrors view count (f' stop) (f stop)) :
    Mirrors view count (tryCatch x' f') (tryCatch x f) := by
  constructor <;> intro s
  · rw [tryCatch_apply, tryCatch_apply, hx.same s]
    rcases x' s with ⟨stop | b, s₁⟩
    · exact (hf stop).same s₁
    · rfl
  · have hgrown := hx.grows s
    rw [tryCatch_apply]
    revert hgrown
    rcases x' s with ⟨stop | b, s₁⟩
    · exact fun hgrown => Nat.le_trans hgrown ((hf stop).grows s₁)
    · exact id

theorem mirrors_mapM {ι : Type} {f' : ι → ExceptT Stop (StateM τ') β}
    {f : ι → ExceptT Stop (StateM τ) β} (hf : ∀ i, Mirrors view count (f' i) (f i))
    (is : List ι) : Mirrors view count (is.mapM f') (is.mapM f) := by
  induction is with
  | nil => exact mirrors_pure []
  | cons i is ih =>
    rw [List.mapM_cons, List.mapM_cons]
    exact mirrors_bind (hf i) fun _ => mirrors_bind ih fun _ => mirrors_pure _

theorem mirrors_forM {ι : Type} {f' : ι → ExceptT Stop (StateM τ') PUnit}
    {f : ι → ExceptT Stop (StateM τ) PUnit} (hf : ∀ i, Mirrors view count (f' i) (f i))
    (is : List ι) : Mirrors view count (is.forM f') (is.forM f) := by
  induction is with
  | nil => exact mirrors_pure _
  | cons i is ih => exact mirrors_bind (hf i) fun _ => ih

end Walk

/-! ### Sessions -/

namespace SessionM
open Walk
variable {β : Type}

/-- An action of a counting session mirrors one of a session. -/
abbrev Tallies (x' : SessionM (σ × Nat) β) (x : SessionM σ β) : Prop :=
  Mirrors Session.uncounted Session.faults x' x

theorem tallies_ask (q : Asked σ β) : Tallies (ask q.counting) (ask q) := by
  constructor <;> rintro ⟨⟨world, n⟩, cache, events⟩ <;>
    rcases hanswer : q world with ⟨(f | _) | b, told, world'⟩
  all_goals simp only [ask, Asked.counting, Session.uncounted, Session.faults, hanswer]
  all_goals omega

theorem tallies_tell (level : Level) (name : String) (fields : List (String × Json)) :
    Tallies (tell level name fields : SessionM (σ × Nat) Unit) (tell level name fields) :=
  mirrors_modify (fun _ => rfl) fun _ => rfl

theorem tallies_onCache (f : Cache → Cache) :
    Tallies (onCache f : SessionM (σ × Nat) Unit) (onCache f) :=
  mirrors_modify (fun _ => rfl) fun _ => rfl

theorem tallies_request (key : CacheKey) :
    Tallies (SessionM.request key : SessionM (σ × Nat) CacheReply) (SessionM.request key) :=
  ⟨fun _ => rfl, fun _ => Nat.le_refl _⟩

variable (r : Repository σ) (build : ModelBuilder) (id path : String)

theorem tallies_buildModel :
    Tallies (buildModel r.counting build id path) (buildModel r build id path) := by
  refine mirrors_bind (tallies_ask (r.readBlob id path)) fun bytes => ?_
  rcases build bytes path with fault | m
  · cases fault with
    | parse f =>
      exact mirrors_bind (tallies_tell _ _ _) fun _ => mirrors_bind (tallies_onCache _) fun _ =>
        mirrors_pure _
    | backslash | hugeInteger => exact mirrors_throw _
  · exact mirrors_bind (tallies_tell _ _ _) fun _ => mirrors_pure _

theorem tallies_modelOf : Tallies (modelOf r.counting build id path) (modelOf r build id path) := by
  refine mirrors_bind (tallies_request (id, path)) fun reply => ?_
  cases reply with
  | hit m => exact mirrors_pure m
  | wait => exact mirrors_throw _
  | build =>
    refine mirrors_bind (mirrors_tryCatch (tallies_buildModel r build id path) fun stop => ?_)
      fun m => mirrors_bind (tallies_onCache _) fun _ => mirrors_pure m
    exact mirrors_bind (tallies_onCache _) fun _ => mirrors_throw stop

theorem tallies_parentVersions :
    Tallies (Walker.parentVersions r.counting id path) (Walker.parentVersions r id path) :=
  mirrors_bind (tallies_ask (r.parentsTouching id path)) fun _ =>
    mirrors_bind (tallies_tell _ _ _) fun _ => mirrors_pure _

end SessionM

/-! ### Walks -/

namespace Walk
variable {β : Type}

/-- An action of a counting walk mirrors one of a walk. -/
abbrev Tallies (x' : Walk (σ × Nat) α β) (x : Walk σ α β) : Prop :=
  Mirrors WalkState.uncounted WalkState.faults x' x

theorem tallies_inSession {x' : SessionM (σ × Nat) β} {x : SessionM σ β}
    (h : SessionM.Tallies x' x) :
    Tallies (inSession x' : Walk (σ × Nat) α β) (inSession x) := by
  refine ⟨fun s => ?_, fun s => h.grows s.session⟩
  have hsame := h.same s.session
  show ((x s.session.uncounted).1, _) = _
  rw [hsame]
  exact Prod.ext rfl (congrArg (WalkState.mk · s.run) (congrArg Prod.snd hsame))

theorem tallies_tell (level : Level) (name : String) (fields : List (String × Json)) :
    Tallies (tell level name fields : Walk (σ × Nat) α Unit) (tell level name fields) :=
  tallies_inSession (SessionM.tallies_tell level name fields)

theorem tallies_onRun (f : Run α → Run α) :
    Tallies (onRun f : Walk (σ × Nat) α Unit) (onRun f) :=
  mirrors_modify (fun _ => rfl) fun _ => rfl

theorem tallies_attempt {x' : Walk (σ × Nat) α β} {x : Walk σ α β} (h : Tallies x' x) :
    Tallies (attempt x') (attempt x) := by
  constructor <;> intro s
  · refine Prod.ext ?_ ?_
    · rw [(attempt_apply s).1, (attempt_apply s.uncounted).1, h.same s]
    · rw [(attempt_apply s).2, (attempt_apply s.uncounted).2, h.same s]
  · rw [(attempt_apply s).2]
    exact h.grows s

theorem tallies_terminate (t : Termination) :
    Tallies (terminate t : Walk (σ × Nat) α Unit) (terminate t) := by
  refine mirrors_get fun s => ?_
  show Mirrors _ _ (if s.run.hasEnded t = true then _ else _)
    (if s.run.hasEnded t = true then _ else _)
  split
  · exact mirrors_pure _
  · exact mirrors_bind (tallies_onRun _) fun _ => tallies_tell _ _ _

theorem tallies_stopAll (a : Active) (rest : List Branch) :
    Tallies (stopAll a rest : Walk (σ × Nat) α Unit) (stopAll a rest) :=
  mirrors_bind (tallies_onRun _) fun _ => mirrors_get fun _ =>
    mirrors_bind (tallies_tell _ _ _) fun _ => mirrors_bind (tallies_terminate _) fun _ =>
      mirrors_forM (fun b => tallies_terminate b.cut) rest

end Walk

namespace Walker
open Walk
variable (w : Walker σ α)

theorem counting_matching : w.counting.matching = w.matching := rfl

theorem tallies_modelOf (id path : String) :
    Tallies (w.counting.modelOf id path) (w.modelOf id path) := by
  refine mirrors_get fun s => mirrors_bind
    (tallies_inSession (SessionM.tallies_modelOf w.repository w.build id path)) fun m => ?_
  show Mirrors _ _ (if s.session.cache.contains (id, path) = true then _ else _)
    (if s.session.cache.contains (id, path) = true then _ else _)
  split <;> exact mirrors_bind (tallies_onRun _) fun _ => mirrors_pure _

theorem tallies_extend (origin : Active) (m : Match α) :
    Tallies (w.counting.extend origin m) (w.extend origin m) := by
  refine mirrors_get fun s => ?_
  have hrun : s.uncounted.run = s.run := rfl
  dsimp only
  rw [hrun]
  obtain ⟨node, isNew, run⟩ := s.run.nodeFor m.commit m.path m.element
  refine mirrors_bind (tallies_onRun _) fun _ => mirrors_bind (tallies_onRun _) fun _ =>
    mirrors_bind (tallies_tell _ _ _) fun _ => ?_
  split
  · exact mirrors_pure _
  · split <;> exact mirrors_pure _

variable [Score α]

theorem tallies_matchIn (origin : Active) (commit : Commit) (path : String) :
    Tallies (w.counting.matchIn origin commit path) (w.matchIn origin commit path) := by
  refine mirrors_bind (w.tallies_modelOf commit.id path) fun cached => ?_
  cases cached with
  | unparseable => exact mirrors_pure _
  | model earlier =>
    dsimp only
    rw [counting_matching]
    rcases (Lookup.mk origin.element origin.model earlier).search w.matching
      with ⟨tier, s, kind⟩ | best | _
    · exact mirrors_bind (tallies_onRun _) fun _ => mirrors_pure _
    · exact mirrors_bind (tallies_tell _ _ _) fun _ => mirrors_pure _
    · exact mirrors_pure _

theorem tallies_searchFiles (origin : Active) (parent : Commit) (paths : List String)
    (best : Option (Match α)) :
    Tallies (w.counting.searchFiles origin parent paths best)
      (w.searchFiles origin parent paths best) := by
  induction paths generalizing best with
  | nil => exact mirrors_pure best
  | cons path rest ih =>
    refine mirrors_bind (tallies_attempt (w.tallies_modelOf parent.id path)) fun answer => ?_
    rcases answer with f | earlier | _
    · exact mirrors_bind (tallies_tell _ _ _) fun _ => ih best
    · dsimp only
      rw [counting_matching]
      rcases (Lookup.mk origin.element origin.model earlier).elsewhere? w.matching
        with _ | ⟨s, kind⟩
      · exact ih best
      · exact ih _
    · exact ih best

theorem tallies_findMoved (origin : Active) (parentId : String) :
    Tallies (w.counting.findMoved origin parentId) (w.findMoved origin parentId) := by
  refine mirrors_bind (tallies_attempt (tallies_inSession
    (SessionM.tallies_ask (w.repository.changedPaths origin.commit.id parentId)))) fun answer => ?_
  rcases answer with f | paths
  · exact mirrors_bind (tallies_tell _ _ _) fun _ => mirrors_pure _
  · show Mirrors _ _ (if (w.moveSources origin paths).isEmpty = true then _ else _)
      (if (w.moveSources origin paths).isEmpty = true then _ else _)
    split
    · exact mirrors_pure _
    · refine mirrors_bind (tallies_attempt (tallies_inSession
        (SessionM.tallies_ask (w.repository.resolve parentId)))) fun answer => ?_
      rcases answer with f | parent
      · exact mirrors_bind (tallies_tell _ _ _) fun _ => mirrors_pure _
      · refine mirrors_bind (w.tallies_searchFiles origin parent _ none) fun best => ?_
        cases best with
        | none => exact mirrors_pure _
        | some m => exact mirrors_bind (tallies_tell _ _ _) fun _ => mirrors_pure _

theorem tallies_followMove (origin : Active) (parentId : String) :
    Tallies (w.counting.followMove origin parentId) (w.followMove origin parentId) := by
  show Mirrors _ _ (if w.config.followMoves = true then _ else _)
    (if w.config.followMoves = true then _ else _)
  split
  · exact w.tallies_findMoved origin parentId
  · exact mirrors_pure _

theorem tallies_examine (origin : Active) (v : ParentVersion) :
    Tallies (w.counting.examine origin v) (w.examine origin v) := by
  refine mirrors_bind (tallies_attempt (w.tallies_matchIn origin v.commit v.path)) fun answer => ?_
  rcases answer with f | m | _ | _
  · exact mirrors_bind (tallies_tell _ _ _) fun _ => mirrors_pure _
  · exact mirrors_pure _
  · exact mirrors_bind (w.tallies_followMove origin v.viaParent) fun _ => mirrors_pure _
  · exact mirrors_pure _

omit [Score α] in
theorem tallies_record (origin : Active) (x : Finding α) :
    Tallies (w.counting.record origin x) (w.record origin x) := by
  cases x with
  | failed t | absent => exact mirrors_pure _
  | found m => exact mirrors_bind (w.tallies_extend origin m) fun _ => mirrors_pure _

theorem tallies_resolveVersion (origin : Active) (v : ParentVersion) :
    Tallies (w.counting.resolveVersion origin v) (w.resolveVersion origin v) := by
  rw [w.resolveVersion_eq, w.counting.resolveVersion_eq]
  exact mirrors_bind (w.tallies_examine origin v) (w.tallies_record origin)

theorem tallies_resolve (origin : Active) (pending : List ParentVersion) :
    Tallies (w.counting.resolve origin pending) (w.resolve origin pending) :=
  mirrors_bind (mirrors_mapM (w.tallies_resolveVersion origin) pending) fun _ => mirrors_pure _

theorem tallies_movesFrom (a : Active) (parentId : String) :
    Tallies (w.counting.movesFrom a parentId) (w.movesFrom a parentId) := by
  refine mirrors_bind (w.tallies_followMove a parentId) fun moved => ?_
  cases moved with
  | none => exact mirrors_pure _
  | some m => exact w.tallies_extend a m

theorem tallies_nextBranches (a : Active) :
    Tallies (w.counting.nextBranches a) (w.nextBranches a) := by
  refine mirrors_bind (tallies_onRun _) fun _ => mirrors_bind (tallies_attempt (tallies_inSession
    (SessionM.tallies_parentVersions w.repository a.commit.id a.path))) fun answer => ?_
  rcases answer with f | _ | ⟨v, _ | ⟨v', vs⟩⟩
  · exact mirrors_bind (tallies_tell _ _ _) fun _ => mirrors_pure _
  · refine mirrors_bind (mirrors_mapM (w.tallies_movesFrom a) _) fun bss => ?_
    dsimp only
    split <;> exact mirrors_pure _
  · exact w.tallies_resolve a [v]
  · exact mirrors_bind (tallies_tell _ _ _) fun _ => mirrors_pure _

theorem tallies_advance (a : Active) : Tallies (w.counting.advance a) (w.advance a) :=
  mirrors_bind (tallies_onRun _) fun _ => mirrors_bind (w.tallies_nextBranches a) fun _ =>
    mirrors_bind (tallies_onRun _) fun _ => mirrors_pure _

theorem tallies_step (first : Branch) (rest : List Branch) :
    Tallies (w.counting.step first rest) (w.step first rest) := by
  cases first with
  | terminated t => exact mirrors_bind (tallies_terminate t) fun _ => mirrors_pure _
  | branching origin pending =>
    exact mirrors_bind (w.tallies_resolve origin pending) fun _ => mirrors_pure _
  | active a =>
    refine mirrors_get fun s => ?_
    show Mirrors _ _ (if w.outOfBudget s.uncounted = true then _ else _)
      (if w.outOfBudget s.uncounted = true then _ else _)
    split
    · exact mirrors_bind (tallies_stopAll a rest) fun _ => mirrors_pure _
    · exact mirrors_bind (w.tallies_advance a) fun _ => mirrors_pure _

theorem tallies_steps (fuel : Nat) (work : List Branch) :
    Tallies (w.counting.steps fuel work) (w.steps fuel work) := by
  induction fuel generalizing work with
  | zero => cases work <;> exact mirrors_pure _
  | succ fuel ih =>
    cases work with
    | nil => exact mirrors_pure _
    | cons first rest => exact mirrors_bind (w.tallies_step first rest) ih

/-- **Counting faults does not change what is told.** -/
theorem history_counting (fuel : Nat) (commit : Commit) (path : String) (m : Model) (e : Element)
    (x : Session σ) :
    (w.counting.history fuel commit path m e x.counting).1
      = (w.history fuel commit path m e x).1 := by
  let seed : Active := ⟨0, commit, path, m, e⟩
  have hsame := (w.tallies_steps fuel [.active seed]).same (opening seed x.counting)
  have hstart : (opening seed x.counting : WalkState (σ × Nat) α).uncounted = opening seed x := rfl
  rw [hstart] at hsame
  rw [(w.counting.history_told fuel seed rfl x.counting).1, (w.history_told fuel seed rfl x).1,
    hsame]
  rcases w.counting.steps fuel [.active seed] (opening seed x.counting)
    with ⟨stop | _ | ⟨b, bs⟩, s⟩ <;> rfl

end Walker
end Lineage
