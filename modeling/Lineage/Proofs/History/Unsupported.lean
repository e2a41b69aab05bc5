import Lineage.Proofs.History.Balance
import Lineage.Proofs.History.Overlooked

/-! # Questions that a repository does not take

An object that is handed over as a repository is accepted if it takes three of the four questions
(`Offer.needed`).  The fourth, for the paths that a commit has changed, is put where an element is
looked for in other files; an object that does not take it has no answer there, and the walk stops.

`Walk.RefusedIn` says in which states that happens to an action.  It happens in no others than those
in which a step comes to a search and moves are followed (`Walker.refused_step`), so a tracker whose
start was accepted is refused exactly if its repository does not take the fourth question, moves are
followed and its walk comes to a search (`Tracker.unsupported_iff_searches`).
-/
namespace Lineage
variable {σ α : Type}

/-! ### Repositories -/

/-- No question is refused as one that is not taken. -/
structure Repository.TakesAll (r : Repository σ) : Prop where
  resolve : ∀ id s, (r.resolve id s).1 ≠ .error .unsupported
  parentsTouching : ∀ id path s, (r.parentsTouching id path s).1 ≠ .error .unsupported
  readBlob : ∀ id path s, (r.readBlob id path s).1 ≠ .error .unsupported
  changedPaths : ∀ id parent s, (r.changedPaths id parent s).1 ≠ .error .unsupported

/-- The needed questions are taken, and the question for changed paths is always taken or never. -/
structure Repository.TakesNeeded (r : Repository σ) (changes : Bool) : Prop where
  resolve : ∀ id s, (r.resolve id s).1 ≠ .error .unsupported
  parentsTouching : ∀ id path s, (r.parentsTouching id path s).1 ≠ .error .unsupported
  readBlob : ∀ id path s, (r.readBlob id path s).1 ≠ .error .unsupported
  changedPaths : ∀ id parent s, (r.changedPaths id parent s).1 = .error .unsupported ↔
    changes = false

namespace Walk
variable {β γ : Type} {x : Walk σ α β} {f : β → Walk σ α γ} {C : WalkState σ α → Prop}

/-! ### Actions -/

/-- The states in which the action stops because the repository does not take a question. -/
def RefusedIn (x : Walk σ α β) (C : WalkState σ α → Prop) : Prop :=
  ∀ s, (x s).1 = .error .unsupported ↔ C s

/-- The action never stops for that. -/
abbrev Answered (x : Walk σ α β) : Prop := RefusedIn x fun _ => False

theorem answered_of_ne (h : ∀ s, (x s).1 ≠ .error .unsupported) : Answered x :=
  fun s => iff_false_intro (h s)

theorem answered_pure (b : β) : Answered (pure b : Walk σ α β) := answered_of_ne fun _ => nofun

theorem answered_tell (level : Level) (name : String) (fields : List (String × Json)) :
    Answered (tell level name fields : Walk σ α Unit) := answered_of_ne fun _ => nofun

theorem answered_onRun (f : Run α → Run α) : Answered (onRun f : Walk σ α Unit) :=
  answered_of_ne fun _ => nofun

theorem RefusedIn.congr {D : WalkState σ α → Prop} (hx : RefusedIn x C) (h : ∀ s, C s ↔ D s) :
    RefusedIn x D := fun s => (hx s).trans (h s)

theorem refused_bind {D : β → WalkState σ α → Prop} (hx : RefusedIn x C)
    (hf : ∀ b, RefusedIn (f b) (D b)) :
    RefusedIn (x >>= f) fun s => C s ∨ ∃ b, (x s).1 = .ok b ∧ D b (x s).2 := by
  intro s
  beta_reduce
  rw [← hx s]
  rcases houtcome : (x s).1 with stop | b
  · rw [bind_of_error houtcome]
    simp
  · rw [bind_of_ok houtcome, hf b]
    simp

/-- An action that is followed by ones that are answered. -/
theorem refused_before (hx : RefusedIn x C) (hf : ∀ b, Answered (f b)) : RefusedIn (x >>= f) C :=
  (refused_bind hx hf).congr fun s => by simp

/-- An action that follows one that is answered. -/
theorem refused_after {D : β → WalkState σ α → Prop} (hx : Answered x)
    (hf : ∀ b, RefusedIn (f b) (D b)) :
    RefusedIn (x >>= f) fun s => ∃ b, (x s).1 = .ok b ∧ D b (x s).2 :=
  (refused_bind hx hf).congr fun s => by simp

theorem answered_bind (hx : Answered x) (hf : ∀ b, Answered (f b)) : Answered (x >>= f) :=
  refused_before hx hf

/-- To tell something before an outcome is given takes no question. -/
theorem answered_report {level : Level} {name : String} {fields : List (String × Json)} {b : β} :
    Answered (tell level name fields >>= fun _ => pure b : Walk σ α β) :=
  answered_bind (answered_tell level name fields) fun _ => answered_pure b

theorem refused_attempt (hx : RefusedIn x C) : RefusedIn (attempt x) C := by
  intro s
  rw [← hx s, (attempt_apply s).1]
  rcases (x s).1 with stop | b
  · cases stop <;> simp
  · simp

theorem refused_ask (q : Asked σ β) :
    RefusedIn (inSession (.ask q) : Walk σ α β) fun s =>
      (q s.session.world).1 = .error .unsupported := by
  intro s
  change (q s.session.world).1.mapError SessionM.stopOf = .error .unsupported
    ↔ (q s.session.world).1 = .error .unsupported
  rcases (q s.session.world).1 with refusal | b
  · cases refusal <;> simp [SessionM.stopOf, Except.mapError]
  · simp [Except.mapError]

theorem answered_terminate (t : Termination) : Answered (terminate t : Walk σ α Unit) := by
  refine answered_of_ne fun s h => ?_
  obtain ⟨s', hend, -⟩ := terminate_apply t s
  rw [hend] at h
  cases h

theorem answered_stopAll (a : Active) (rest : List Branch) :
    Answered (stopAll a rest : Walk σ α Unit) := by
  refine answered_of_ne fun s h => ?_
  obtain ⟨s', hstop, -⟩ := stopAll_apply a rest s
  rw [hstop] at h
  cases h

end Walk

/-! ### Looking -/

namespace Walker
open Walk
variable {w : Walker σ α} {changes : Bool}

/-- Looking up a model puts needed questions only. -/
theorem modelOf_ne_unsupported (hr : w.repository.TakesNeeded changes) (id path : String)
    (x : Session σ) :
    (SessionM.modelOf w.repository w.build id path x).1 ≠ .error .unsupported := by
  intro h
  obtain hstalled | ⟨x', hbuilt⟩ := (w.modelOf_enters id path x).2.2 _ h
  · cases hstalled
  · obtain ⟨refusal, hanswer, hstop⟩ | ⟨_, _, -, hstop, -⟩ := SessionM.buildModel_error hbuilt
    · cases refusal with
      | fault f => cases hstop
      | unsupported => exact hr.readBlob id path x'.world hanswer
    · cases hstop

theorem answered_modelOf (hr : w.repository.TakesNeeded changes) (id path : String) :
    Answered (w.modelOf id path) := by
  refine answered_of_ne fun s => ?_
  rw [(w.modelOf_session id path s).1]
  exact modelOf_ne_unsupported hr id path s.session

theorem answered_askParents (hr : w.repository.TakesNeeded changes) (a : Active) :
    Answered (w.askParents a) := by
  have hversions : Answered
      (inSession (parentVersions w.repository a.commit.id a.path) : Walk σ α _) := by
    refine answered_of_ne fun s h => ?_
    obtain ⟨refusal, hanswer, hstop⟩ := parentVersions_error h
    cases refusal with
    | fault f => cases hstop
    | unsupported => exact hr.parentsTouching _ _ _ hanswer
  exact answered_bind (answered_onRun _) fun _ => answered_bind (answered_onRun _) fun _ =>
    refused_attempt hversions

theorem answered_record (origin : Active) (x : Finding α) : Answered (w.record origin x) := by
  refine answered_of_ne fun s h => ?_
  obtain ⟨s', hrecord, -⟩ := w.record_apply origin x s
  rw [hrecord] at h
  cases h

variable [Score α]

theorem answered_matchIn (hr : w.repository.TakesNeeded changes) (origin : Active)
    (commit : Commit) (path : String) : Answered (w.matchIn origin commit path) := by
  refine answered_bind (answered_modelOf hr commit.id path) fun cached => ?_
  cases cached with
  | unparseable => exact answered_pure _
  | model earlier =>
    dsimp only
    split
    · exact answered_bind (answered_onRun _) fun _ => answered_pure _
    · exact answered_report
    · exact answered_pure _

theorem answered_searchFiles (hr : w.repository.TakesNeeded changes) (origin : Active)
    (parent : Commit) (paths : List String) (best : Option (Match α)) :
    Answered (w.searchFiles origin parent paths best) := by
  induction paths generalizing best with
  | nil => exact answered_pure best
  | cons path rest ih =>
    refine answered_bind (refused_attempt (answered_modelOf hr parent.id path)) fun answer => ?_
    rcases answer with f | earlier | _
    · exact answered_bind (answered_tell _ _ _) fun _ => ih best
    · dsimp only
      split <;> exact ih _
    · exact ih best

/-- A search for the element is refused exactly if the question for changed paths is not taken. -/
theorem refused_findMoved (hr : w.repository.TakesNeeded changes) (origin : Active)
    (parentId : String) : RefusedIn (w.findMoved origin parentId) fun _ => changes = false := by
  have hasked : RefusedIn (attempt (inSession (.ask
      (w.repository.changedPaths origin.commit.id parentId))) : Walk σ α _)
      fun _ => changes = false :=
    refused_attempt ((refused_ask _).congr fun s => hr.changedPaths _ _ _)
  refine refused_before hasked fun answer => ?_
  rcases answer with f | paths
  · exact answered_report
  · dsimp only
    split
    · exact answered_pure _
    · have hresolved : Answered (inSession (.ask (w.repository.resolve parentId)) : Walk σ α _) :=
        (refused_ask _).congr fun s => iff_false_intro (hr.resolve _ _)
      refine answered_bind (refused_attempt hresolved) fun answer => ?_
      rcases answer with f | parent
      · exact answered_report
      · refine answered_bind (answered_searchFiles hr _ _ _ _) fun best => ?_
        cases best with
        | none => exact answered_pure _
        | some m => exact answered_report

variable (w) in
/-- A search of the walk is refused. -/
def Refuses (changes : Bool) : Prop := w.config.followMoves = true ∧ changes = false

theorem refused_followMove (hr : w.repository.TakesNeeded changes) (origin : Active)
    (parentId : String) : RefusedIn (w.followMove origin parentId) fun _ => w.Refuses changes := by
  unfold followMove Refuses
  split
  · next hmoves => exact (refused_findMoved hr origin parentId).congr fun _ => by simp [hmoves]
  · next hmoves => exact (answered_pure _).congr fun _ => by simp [hmoves]

theorem refused_examineParent (hr : w.repository.TakesNeeded changes) (origin : Active)
    (parentId : String) :
    RefusedIn (w.examineParent origin parentId) fun _ => w.Refuses changes :=
  refused_before (refused_followMove hr origin parentId) fun _ => answered_pure _

/-- Examining a parent version is refused exactly if it comes to a search that is. -/
theorem refused_examine (hr : w.repository.TakesNeeded changes) (origin : Active)
    (v : ParentVersion) : RefusedIn (w.examine origin v) fun s =>
      w.Refuses changes ∧ (w.searchAt? origin v s).isSome = true := by
  refine RefusedIn.congr (refused_after
    (D := fun answer _ => answer = .ok .absent ∧ w.Refuses changes)
    (refused_attempt (answered_matchIn hr origin v.commit v.path)) fun answer => ?_) fun s => ?_
  · rcases answer with f | m | _ | _
    · exact answered_report.congr fun _ => by simp
    · exact (answered_pure _).congr fun _ => by simp
    · exact (refused_before (refused_followMove hr _ _) fun _ => answered_pure _).congr fun _ => by
        simp
    · exact (answered_pure _).congr fun _ => by simp
  · unfold searchAt?
    rcases attempt (w.matchIn origin v.commit v.path) s with ⟨_ | _ | _ | _ | _, s₁⟩ <;> simp

omit [Score α] in
/-- Looking into places one after the other is refused exactly if looking into one of them is. -/
theorem refused_places {ι : Type} {origin : Active} {look : ι → Walk σ α (Finding α)}
    {C : ι → WalkState σ α → Prop} (hlook : ∀ i, RefusedIn (look i) (C i)) (is : List ι) :
    RefusedIn (is.mapM fun i => look i >>= w.record origin) fun s =>
      ∃ p ∈ w.visits origin look is s, C p.1 p.2 := by
  induction is with
  | nil => exact (answered_pure _).congr fun s => by simp [visits]
  | cons i is ih =>
    rw [List.mapM_cons, bind_assoc]
    refine RefusedIn.congr (refused_bind (hlook i) fun x =>
      refused_after (answered_record origin x) fun r =>
        refused_before ih fun _ => answered_pure _) fun s => ?_
    rw [visits, List.exists_mem_cons_iff]
    refine or_congr_right ?_
    rcases look i s with ⟨stop | x, s₁⟩
    · simp
    · obtain ⟨s₂, hrecord, -⟩ := w.record_apply origin x s₁
      simp [hrecord]

theorem refused_resolve (hr : w.repository.TakesNeeded changes) (a : Active)
    (vs : List ParentVersion) :
    RefusedIn (w.resolve a vs) fun s => w.Refuses changes ∧ w.searchesIn a vs s ≠ [] := by
  unfold resolve
  rw [funext (w.resolveVersion_eq a)]
  refine RefusedIn.congr (refused_before (refused_places (refused_examine hr a) vs) fun _ =>
    answered_pure _) fun s => ?_
  simp only [searchesIn, ne_eq, List.filterMap_eq_nil_iff, ← Option.not_isSome_iff_eq_none,
    not_forall, not_not, exists_prop]
  exact ⟨fun ⟨p, hp, hrefuses, hsearch⟩ => ⟨hrefuses, p, hp, hsearch⟩,
    fun ⟨hrefuses, p, hp, hsearch⟩ => ⟨p, hp, hrefuses, hsearch⟩⟩

theorem refused_moves (hr : w.repository.TakesNeeded changes) (a : Active) :
    RefusedIn (a.commit.parentIds.mapM (w.movesFrom a)) fun s => w.Refuses changes ∧
      w.visits a (w.examineParent a) a.commit.parentIds s ≠ [] := by
  rw [funext (w.movesFrom_eq a), mapM_map_outcome, ← bind_pure_comp]
  refine RefusedIn.congr (refused_before (refused_places (refused_examineParent hr a) _) fun _ =>
    answered_pure _) fun s => ?_
  exact ⟨fun ⟨_, hp, hrefuses⟩ => ⟨hrefuses, List.ne_nil_of_mem hp⟩, fun ⟨hrefuses, hne⟩ =>
    (List.exists_mem_of_ne_nil _ hne).imp fun _ hp => ⟨hp, hrefuses⟩⟩

/-! ### Steps -/

variable (w) in
/-- The searches of an expansion in which the question for parent versions has been answered. -/
def searchesOn (a : Active) :
    Except RepositoryFault (List ParentVersion) → WalkState σ α → List (MoveSearch σ α)
  | .ok [], s => (w.visits a (w.examineParent a) a.commit.parentIds s).map fun p => ⟨a, p.1, p.2⟩
  | .ok [v], s => w.searchesIn a [v] s
  | _, _ => []

theorem refused_advance (hr : w.repository.TakesNeeded changes) (a : Active) :
    RefusedIn (w.advance a) fun s => ∃ answer, (w.askParents a s).1 = .ok answer ∧
      w.Refuses changes ∧ w.searchesOn a answer (w.askParents a s).2 ≠ [] := by
  unfold advance nextBranches
  simp only [bind_assoc]
  rw [← askParents_bind]
  refine refused_after (D := fun answer s => w.Refuses changes ∧ w.searchesOn a answer s ≠ [])
    (answered_askParents hr a) fun answer => ?_
  refine refused_before ?_ fun _ => answered_bind (answered_onRun _) fun _ => answered_pure _
  rcases answer with f | _ | ⟨v, _ | ⟨v', vs⟩⟩
  · exact answered_report.congr fun _ => by simp [searchesOn]
  · refine (refused_before (refused_moves hr a) fun bss => ?_).congr fun _ => by simp [searchesOn]
    split <;> exact answered_pure _
  · exact refused_resolve hr a [v]
  · exact answered_report.congr fun _ => by simp [searchesOn]

/-- **A step is refused** exactly if it comes to a search and searches are. -/
theorem refused_step (hr : w.repository.TakesNeeded changes) (first : Branch) (rest : List Branch) :
    RefusedIn (w.step first rest) fun s => w.Refuses changes ∧ w.searches first s ≠ [] := by
  cases first with
  | terminated t =>
    exact (answered_bind (answered_terminate t) fun _ => answered_pure _).congr fun s => by
      simp [searches]
  | branching a vs => exact refused_before (refused_resolve hr a vs) fun _ => answered_pure _
  | active a =>
    intro s
    beta_reduce
    rw [step_active, searches]
    split
    · have hstopped := answered_bind (answered_stopAll a rest) (f := fun _ => pure [])
        fun _ => answered_pure (α := α) (σ := σ) ([] : List Branch)
      exact (hstopped s).trans (by simp)
    · refine (refused_before (refused_advance hr a) (fun _ => answered_pure _) s).trans ?_
      rcases w.askParents a s with ⟨_ | _ | _ | ⟨v, _ | ⟨v', vs⟩⟩, s₁⟩ <;> simp [searchesOn]

/-- A walk is refused exactly if one of its steps comes to a search and searches are. -/
theorem refused_steps (hr : w.repository.TakesNeeded changes) (fuel : Nat) (work : List Branch) :
    RefusedIn (w.steps fuel work) fun s => w.Refuses changes ∧
      ∃ st ∈ w.stages fuel work s, w.searches st.first st.state ≠ [] := by
  induction fuel generalizing work with
  | zero => cases work <;> exact (answered_pure _).congr fun s => by simp [stages]
  | succ fuel ih =>
    cases work with
    | nil => exact (answered_pure _).congr fun s => by simp [stages]
    | cons first rest =>
      refine RefusedIn.congr (refused_bind (refused_step hr first rest) ih) fun s => ?_
      rw [stages, List.exists_mem_cons_iff]
      rcases w.step first rest s with ⟨stop | work, s'⟩
      · simp
      · simp [and_or_left]

/-! ### Histories -/

variable (w) in
/-- The walk from a seed comes to a search for the element in other files. -/
def Searches (fuel : Nat) (seed : Active) (x : Session σ) : Prop :=
  ∃ st ∈ w.stages fuel [.active seed] (opening seed x), w.searches st.first st.state ≠ []

instance (fuel : Nat) (seed : Active) (x : Session σ) : Decidable (w.Searches fuel seed x) :=
  inferInstanceAs (Decidable (∃ st ∈ w.stages fuel [.active seed] (opening seed x),
    w.searches st.first st.state ≠ []))

theorem history_refused_iff (hr : w.repository.TakesNeeded changes) (fuel : Nat) (seed : Active)
    (hseed : seed.node = 0) (x : Session σ) :
    (w.history fuel seed.commit seed.path seed.model seed.element x).1 = .error .unsupported ↔
      w.Refuses changes ∧ w.Searches fuel seed x := by
  refine Iff.trans ?_ (refused_steps hr fuel [.active seed] (opening seed x))
  rw [(w.history_told fuel seed hseed x).1]
  rcases w.steps fuel [.active seed] (opening seed x) with ⟨stop | _ | ⟨b, bs⟩, s⟩
  · exact ⟨fun h => congrArg _ (Except.error.inj h), fun h => congrArg _ (Except.error.inj h)⟩
  · exact ⟨nofun, nofun⟩
  · exact ⟨nofun, nofun⟩

end Walker

/-! ### Trackers -/

namespace Tracker
open Walk Walker
variable {t : Tracker σ α} {s : Session σ} {changes : Bool}

/-- To find the seed takes needed questions only. -/
theorem seed?_ne_unsupported (hr : t.walker.repository.TakesNeeded changes) :
    (t.seed? s).1 ≠ .error .unsupported := by
  intro h
  unfold seed? at h
  rcases hcommit : (SessionM.ask (t.walker.repository.resolve t.config.startCommit) s).1
    with stop | commit
  · rw [bind_of_error hcommit] at h
    cases h
    obtain ⟨refusal, hanswer, hstop⟩ := ask_error hcommit
    cases refusal with
    | fault f => cases hstop
    | unsupported => exact hr.resolve _ _ hanswer
  · rw [bind_of_ok hcommit] at h
    rcases hmodel : (SessionM.modelOf t.walker.repository t.walker.build commit.id t.config.path
      (SessionM.ask (t.walker.repository.resolve t.config.startCommit) s).2).1 with stop | m | _
    · rw [bind_of_error hmodel] at h
      cases h
      exact modelOf_ne_unsupported hr _ _ _ hmodel
    · rw [bind_of_ok hmodel] at h
      cases h
    · rw [bind_of_ok hmodel] at h
      cases h

variable [Score α]

/-- The walk of the tracker comes to a search for the element in other files. -/
def Searches (t : Tracker σ α) (s : Session σ) : Prop :=
  ∃ start ∈ t.start? s, t.walker.Searches t.steps start.1 start.2

instance : Decidable (t.Searches s) :=
  inferInstanceAs (Decidable (∃ start ∈ t.start? s, t.walker.Searches t.steps start.1 start.2))

/-- A tracker is refused exactly if its walk comes to a search and searches are refused. -/
theorem track_refused_iff (hr : t.walker.repository.TakesNeeded changes) :
    (t.track s).1 = .error (.stopped .unsupported) ↔ t.walker.Refuses changes ∧ t.Searches s := by
  have hseed : (t.seed? s).1 ≠ .error .unsupported := seed?_ne_unsupported hr
  unfold Searches start? track
  revert hseed
  rcases t.seed? s with ⟨stop | ⟨commit, _ | ⟨m, e⟩⟩, s₁⟩
  · intro hseed
    simpa using fun h => hseed (congrArg _ h)
  · simp
  · intro _
    let x := (SessionM.tell .debug "seed_located" [("element", .text e.qualifiedName),
      ("lines", .text e.lines.text)] s₁).2
    have hwalk := history_refused_iff hr t.steps ⟨0, commit, t.config.path, m, e⟩ rfl x
    change (t.walker.history t.steps commit t.config.path m e x).1.mapError TrackFault.stopped
      = _ ↔ _
    simp only [Option.mem_def, Option.some.injEq, exists_eq_left']
    rw [← hwalk]
    rcases (t.walker.history t.steps commit t.config.path m e x).1 with stop | h <;>
      simp [Except.mapError]

/-- A tracker whose repository takes the question for changed paths, too, is never refused. -/
theorem track_ne_unsupported (hr : t.walker.repository.TakesNeeded true) :
    (t.track s).1 ≠ .error (.stopped .unsupported) := by
  intro h
  obtain ⟨⟨-, hchanges⟩, -⟩ := (track_refused_iff hr).mp h
  cases hchanges

end Tracker

/-! ### What is accepted -/

namespace Input.Checked
variable {β γ : Type}

theorem map_eq_valid {f : β → γ} {x : Checked β} {c : γ} :
    x.map f = .valid c ↔ ∃ b, x = .valid b ∧ f b = c := by
  cases x <;> simp [map]

/-- Two checks side by side are passed if both are. -/
theorem seq_eq_valid {f : Checked (β → γ)} {x : Checked β} {c : γ} :
    f <*> x = .valid c ↔ ∃ g b, f = .valid g ∧ x = .valid b ∧ g b = c := by
  change apply f (fun _ => x) = .valid c ↔ _
  cases f <;> cases x <;> simp [apply]

end Input.Checked

open Input in
/-- A value that is read under a rule keeps to the rule. -/
theorem Input.Reader.of_satisfying {β : Type} {rule? : β → Option String} {r : Reader β} {j : Json}
    {b : β} (h : satisfying rule? r j = .valid b) : r j = .valid b ∧ rule? b = none := by
  unfold satisfying Checked.andThen at h
  rcases hread : r j with b' | complaints
  · rw [hread] at h
    dsimp only at h
    split at h
    · cases h
    · next hrule =>
      cases h
      exact ⟨rfl, hrule⟩
  · rw [hread] at h
    cases h

open Input Reader Checked in
/-- Nothing that is needed is lacking where a start is accepted. -/
theorem TrackerConfig.lacking?_of_ofFields {kind : ElementKind} {offer : Offer}
    {startCommit path : Json} {fields : List (String × Json)} {config : TrackerConfig}
    (h : ofFields kind offer startCommit path fields = .ok config) : offer.lacking? = none := by
  unfold ofFields at h
  split at h
  · cases h
  dsimp only at h
  split at h
  swap
  · cases h
  rename_i hread
  obtain ⟨⟨given, _⟩, hparts, -⟩ := map_eq_valid.mp hread
  obtain ⟨hparts, hrule⟩ := of_satisfying hparts
  -- the object is the first of four parts that are read side by side
  obtain ⟨ofLocator, locator, hlocator, -, hgiven⟩ := seq_eq_valid.mp hparts
  obtain ⟨ofPath, filePath, hpath, -, rfl⟩ := seq_eq_valid.mp hlocator
  obtain ⟨ofCommit, start, hcommit, -, rfl⟩ := seq_eq_valid.mp hpath
  obtain rfl : _ = ofCommit := Checked.valid.inj hcommit
  obtain ⟨rfl, -⟩ := Prod.mk.inj hgiven
  exact hrule

namespace Offer

theorem name_mem_of_lacking? {questions : List String} (h : (object questions).lacking? = none) :
    ∀ q ∈ needed, q.name ∈ questions := by
  rw [lacking?, Option.map_eq_none_iff, List.find?_eq_none] at h
  simpa using h

end Offer

/-- An object that takes what is needed is a repository that does. -/
theorem Repository.TakesAll.takesNeeded {base : Repository σ} (hbase : base.TakesAll)
    {takes : Question → Bool} (hneeded : ∀ q ∈ Offer.needed, takes q = true) :
    (base.taking takes).TakesNeeded (takes .changedPaths) where
  resolve id s := by
    have htaken : (base.taking takes).resolve id = base.resolve id :=
      if_pos (hneeded .resolve (by decide))
    exact htaken ▸ hbase.resolve id s
  parentsTouching id path s := by
    have htaken : (base.taking takes).parentsTouching id path = base.parentsTouching id path :=
      if_pos (hneeded .parentsTouching (by decide))
    exact htaken ▸ hbase.parentsTouching id path s
  readBlob id path s := by
    have htaken : (base.taking takes).readBlob id path = base.readBlob id path :=
      if_pos (hneeded .readBlob (by decide))
    exact htaken ▸ hbase.readBlob id path s
  changedPaths id parent s := by
    cases htakes : takes .changedPaths with
    | true =>
      have htaken : (base.taking takes).changedPaths id parent = base.changedPaths id parent :=
        if_pos htakes
      exact htaken ▸ iff_of_false (hbase.changedPaths id parent s) nofun
    | false =>
      have hmissing : (base.taking takes).changedPaths id parent = .unsupported :=
        if_neg (Bool.eq_false_iff.mp htakes)
      exact hmissing ▸ iff_of_true rfl rfl

/-- **Where a tracker that exists cannot be tracked.**  A run puts a question that the accepted
object does not take exactly if the object does not take the one for changed paths, moves are
followed, and the walk comes to a search for the element in other files. -/
theorem Tracker.unsupported_iff_searches [Score α] {base : Repository σ} (hbase : base.TakesAll)
    {questions : List String} {t : Tracker σ α}
    (hrepository : t.walker.repository = base.taking fun q => questions.contains q.name)
    {kind : ElementKind} {startCommit path : Json} {fields : List (String × Json)}
    (haccepted : TrackerConfig.ofFields kind (.object questions) startCommit path fields
      = .ok t.config) (s : Session σ) :
    (t.track s).1 = .error (.stopped .unsupported) ↔
      Question.changedPaths.name ∉ questions ∧ t.walker.config.followMoves = true ∧
        t.Searches s := by
  have hneeded : ∀ q ∈ Offer.needed, questions.contains q.name = true := fun q hq =>
    List.contains_iff_mem.mpr
      (Offer.name_mem_of_lacking? (TrackerConfig.lacking?_of_ofFields haccepted) q hq)
  have htakes := hbase.takesNeeded hneeded
  rw [← hrepository] at htakes
  rw [track_refused_iff htakes, Walker.Refuses, and_assoc, and_left_comm, Bool.eq_false_iff]
  simp only [ne_eq, List.contains_iff_mem]

/-! ### An object without the question for changed paths -/

namespace Archive

theorem takesAll_memory (plain : Bool) : (memory plain).TakesAll := by
  have hstill : ∀ {β : Type} (answer : Except RepositoryFault β) (a : Archive),
      (Asked.still answer [] a).1 ≠ .error .unsupported := by
    rintro β (f | b) a h <;> cases h
  exact ⟨fun _ _ => hstill _ _, fun _ _ _ => hstill _ _, fun _ _ _ => hstill _ _,
    fun _ _ _ => hstill _ _⟩

end Archive

/-- A function that comes with its file, in a commit that has a parent. -/
def addedFile : Archive where
  commits := [{ id := "r", files := [], committed := 1 },
    { id := "m", parents := ["r"], files := [("x.py", "def f():\n    pass\n".toUTF8.toList)],
      committed := 2 }]
  head := "m"

/-- The names of the questions that are needed. -/
def neededNames : List String := ["resolve_commit", "parents_touching", "read_blob"]

/-- A tracker of the function. Its repository takes the needed questions only. -/
def addedFileTracker : Tracker Archive Float where
  config := ⟨"HEAD", "x.py", .methodAt "f" 1⟩
  walker :=
    { (addedFile.tracker "x.py" (.methodAt "f" 1)).walker with
      repository := (Archive.memory false).taking fun q => neededNames.contains q.name }
  steps := addedFile.stepBound 0

/-- The tracker exists, and its walk comes to a search. -/
theorem addedFileTracker_accepted :
    TrackerConfig.ofFields .methodDecl (.object neededNames) (.text "HEAD") (.text "x.py")
        [("method_name", .text "f"), ("method_line", .int 1)] = .ok addedFileTracker.config ∧
      addedFileTracker.Searches ⟨addedFile, {}, []⟩ := by
  decide +kernel

theorem unsupported_iff_searches_addedFile :
    (addedFileTracker.track ⟨addedFile, {}, []⟩).1 = .error (.stopped .unsupported) :=
  (Tracker.unsupported_iff_searches (Archive.takesAll_memory false) rfl
    addedFileTracker_accepted.1 ⟨addedFile, {}, []⟩).mpr
    ⟨by decide, rfl, addedFileTracker_accepted.2⟩

/-- A tracker exists that cannot be tracked. -/
theorem not_tracked_if_accepted : ¬ ∀ (questions : List String) (t : Tracker Archive Float),
    t.walker.repository = (Archive.memory false).taking (fun q => questions.contains q.name) →
    (∃ kind startCommit path fields,
      TrackerConfig.ofFields kind (.object questions) startCommit path fields = .ok t.config) →
    ∀ s, (t.track s).1 ≠ .error (.stopped .unsupported) := by
  intro hclaim
  have htakes : addedFileTracker.walker.repository.TakesNeeded false :=
    (Archive.takesAll_memory false).takesNeeded
      (show ∀ q ∈ Offer.needed, neededNames.contains q.name = true by decide)
  exact hclaim neededNames addedFileTracker rfl ⟨_, _, _, _, addedFileTracker_accepted.1⟩
    ⟨addedFile, {}, []⟩
    ((Tracker.track_refused_iff htakes).mpr ⟨⟨rfl, rfl⟩, addedFileTracker_accepted.2⟩)

end Lineage
