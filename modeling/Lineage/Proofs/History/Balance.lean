import Lineage.Proofs.History.Progress

/-! # What a walk does and what its report counts

A walk looks up models, and finds the element in earlier versions of its own file or in other
files.  `Walker.notesOf` lists what it looks up, with what came of it, and what it finds in the
element's own file; the notes are read off the states of the walk and not off its report.

A `Balance` compares the two: it says of two states that the entries which the cache has got in
between, and the notes taken in between, are what the report counts.  Balances add up
(`Balance.trans`).  One holds of each look-up, whatever comes of it (`noted_modelOf`), and hence of
each action of a walk with its notes (`Walk.Noted`), however it ends: of each step (`noted_step`)
and, by induction, of all steps (`noted_steps`).

That a version is expanded and that its parents are asked for is counted apart; a balance says that
the two are counted equally often.
-/
namespace Lineage
variable {σ α : Type}

/-! ### Notes -/

/-- Something that the report counts: a look-up of the model of a file at a commit, with what came
of it, or a match in an earlier version of the element's own file. -/
inductive Note (α : Type) where
  | look (key : CacheKey) (outcome : Except Stop CachedModel)
  | own (m : Match α)

namespace Note

/-- A look-up that returned. -/
def returned : Note α → Bool
  | .look _ (.ok _) => true
  | .look _ (.error _) | .own _ => false

/-- A match in the element's own file. -/
def isOwn : Note α → Bool
  | .own _ => true
  | .look _ _ => false

end Note

/-- The notes of an action, for the state in which it is taken. -/
abbrev Notes (σ α : Type) : Type := WalkState σ α → List (Note α)

/-- Nothing is noted. -/
def Notes.none : Notes σ α := fun _ => []

/-- The notes of an action and then those of what follows, unless the action stops. -/
def Notes.andThen {β : Type} (ns : Notes σ α) (x : Walk σ α β) (next : β → Notes σ α) :
    Notes σ α := fun s =>
  ns s ++ match x s with
    | (.ok b, s') => next b s'
    | (.error _, _) => []

namespace Walker
variable (w : Walker σ α)

/-- A look-up and what comes of it. -/
def lookNotes (id path : String) : Notes σ α := fun s => [.look (id, path) (w.modelOf id path s).1]

/-- The notes of looking into places one after the other. -/
def placeNotes (origin : Active) {ι : Type} (look : ι → Walk σ α (Finding α))
    (notes : ι → Notes σ α) : List ι → Notes σ α
  | [] => .none
  | i :: is =>
    (notes i).andThen (look i >>= w.record origin) fun _ => placeNotes origin look notes is

variable [Score α]

/-- The notes of looking into an earlier version of a file. -/
def matchNotes (origin : Active) (commit : Commit) (path : String) : Notes σ α :=
  (w.lookNotes commit.id path).andThen (w.matchIn origin commit path) fun
    | .found m => fun _ => [.own m]
    | .absent | .unparseable => .none

/-- The notes of looking into files of a parent. -/
def fileNotes (origin : Active) (parent : Commit) : List String → Option (Match α) → Notes σ α
  | [], _ => .none
  | path :: rest, best =>
    (w.lookNotes parent.id path).andThen (w.searchFiles origin parent [path] best)
      (fileNotes origin parent rest)

/-- The notes of looking into the other files that a commit changed. -/
def moveNotes (origin : Active) (parentId : String) : Notes σ α :=
  Notes.none.andThen
    (Walk.attempt (Walk.inSession (.ask (w.repository.changedPaths origin.commit.id parentId)))) fun
    | .error _ => .none
    | .ok paths =>
      if (w.moveSources origin paths).isEmpty then .none
      else
        Notes.none.andThen
          (Walk.attempt (Walk.inSession (.ask (w.repository.resolve parentId)))) fun
          | .error _ => .none
          | .ok parent => w.fileNotes origin parent (w.moveSources origin paths) none

/-- The notes of following a move. -/
def followNotes (origin : Active) (parentId : String) : Notes σ α :=
  if w.config.followMoves then w.moveNotes origin parentId else .none

/-- The notes of looking for the earlier version of an element in a version of its file. -/
def examineNotes (origin : Active) (v : ParentVersion) : Notes σ α :=
  (w.matchNotes origin v.commit v.path).andThen
    (Walk.attempt (w.matchIn origin v.commit v.path)) fun
    | .ok .absent => w.followNotes origin v.viaParent
    | .ok (.found _) | .ok .unparseable | .error _ => .none

/-- The notes of expanding a version. -/
def advanceNotes (a : Active) : Notes σ α :=
  Notes.none.andThen (w.askParents a) fun
    | .ok [] => w.placeNotes a (w.examineParent a) (w.followNotes a) a.commit.parentIds
    | .ok [v] => w.placeNotes a (w.examine a) (w.examineNotes a) [v]
    | .ok (_ :: _ :: _) | .error _ => .none

/-- The notes of a step. -/
def stepNotes : Branch → Notes σ α
  | .terminated _ => .none
  | .branching a vs => w.placeNotes a (w.examine a) (w.examineNotes a) vs
  | .active a => fun s => if w.outOfBudget s then [] else w.advanceNotes a s

/-- The notes of at most `fuel` steps. -/
def notes : Nat → List Branch → Notes σ α
  | _, [] | 0, _ :: _ => .none
  | fuel + 1, first :: rest =>
    (w.stepNotes first).andThen (w.step first rest) fun work => notes fuel work

/-- The notes of a walk from a seed. -/
def notesOf (fuel : Nat) (seed : Active) (x : Session σ) : List (Note α) :=
  w.notes fuel [.active seed] (opening seed x)

end Walker

/-! ### Balances -/

/-- The counts of all tiers together. -/
def Report.matched (r : Report) : Int := r.tiers.foldr (fun tier count => tier.2 + count) 0

/-- What a report counts of look-ups and matches. -/
def Report.lookups (r : Report) : Report :=
  { r with commitsAnalysed := 0, walkerCalls := 0, processing := [] }

theorem Report.matched_countTier (r : Report) (tier : Tier) :
    (r.countTier tier).matched = r.matched + 1 := by
  unfold matched countTier
  dsimp only
  induction r.tiers with
  | nil => rfl
  | cons first rest ih =>
    unfold increment
    split
    · simp only [List.foldr_cons]
      omega
    · simp only [List.foldr_cons, ih]
      omega

theorem Cache.get?_eq_none (c : Cache) (key : CacheKey) :
    c.get? key = none ↔ key ∉ c.entries.map Prod.fst := by
  simp only [get?, List.lookup_eq_none_iff, List.mem_map, not_exists, not_and, bne_iff_ne, ne_eq]
  exact forall₂_congr fun _ _ => not_congr eq_comm

/-- A key without an entry in a cache that has got some entries. -/
theorem Cache.get?_append {c c' : Cache} {added : List (CacheKey × CachedModel)}
    (h : c'.entries = added ++ c.entries) (key : CacheKey) :
    c'.get? key = none ↔ key ∉ added.map Prod.fst ∧ c.get? key = none := by
  rw [c'.get?_eq_none, c.get?_eq_none, h, List.map_append, List.mem_append, not_or]

/-- From one state to a later one the cache has got some entries, each for a key that it did not
have, and the report has counted these entries and the notes taken. -/
structure Balance (s : WalkState σ α) (added : List (CacheKey × CachedModel)) (ns : List (Note α))
    (s' : WalkState σ α) : Prop where
  entries : s'.session.cache.entries = added ++ s.session.cache.entries
  distinct : (added.map Prod.fst).Nodup
  fresh : ∀ key ∈ added.map Prod.fst, s.session.cache.get? key = none
  looked : ∀ entry ∈ added, .look entry.1 (.ok entry.2) ∈ ns
  misses : s'.run.report.cacheMisses = s.run.report.cacheMisses + added.length
  built : s'.run.report.modelsBuilt = s.run.report.modelsBuilt + added.countP (·.2.parsed)
  hits : s'.run.report.cacheHits + added.length
    = s.run.report.cacheHits + ns.countP Note.returned
  matched : s'.run.report.matched = s.run.report.matched + ns.countP Note.isOwn
  calls : s'.run.report.walkerCalls + s.run.report.commitsAnalysed
    = s.run.report.walkerCalls + s'.run.report.commitsAnalysed

namespace Balance
variable {s s₁ s₂ : WalkState σ α} {added more : List (CacheKey × CachedModel)}
  {ns ns' : List (Note α)}

/-- Where the cache has got no entries and the report has counted neither look-ups nor matches, at
most look-ups that stopped are noted. -/
theorem of_same (hentries : s₁.session.cache.entries = s.session.cache.entries)
    (hreport : s₁.run.report.lookups = s.run.report.lookups)
    (hcalls : s₁.run.report.walkerCalls + s.run.report.commitsAnalysed
      = s.run.report.walkerCalls + s₁.run.report.commitsAnalysed)
    (hns : ∀ n ∈ ns, n.returned = false ∧ n.isOwn = false) : Balance s [] ns s₁ where
  entries := hentries
  distinct := List.nodup_nil
  fresh := List.forall_mem_nil _
  looked := List.forall_mem_nil _
  misses := (congrArg Report.cacheMisses hreport :).trans (Int.add_zero _).symm
  built := (congrArg Report.modelsBuilt hreport :).trans (Int.add_zero _).symm
  hits := by
    rw [List.countP_eq_zero.mpr fun n hn => Bool.eq_false_iff.mp (hns n hn).1]
    exact congrArg (· + 0) (congrArg Report.cacheHits hreport :)
  matched := by
    rw [List.countP_eq_zero.mpr fun n hn => Bool.eq_false_iff.mp (hns n hn).2]
    exact (congrArg Report.matched hreport :).trans (Int.add_zero _).symm
  calls := hcalls

/-- A look-up that an entry answers is a hit. -/
theorem of_hit {key : CacheKey} {m : CachedModel}
    (hentries : s₁.session.cache.entries = s.session.cache.entries)
    (hreport : s₁.run.report = { s.run.report with cacheHits := s.run.report.cacheHits + 1 }) :
    Balance s [] [.look key (.ok m)] s₁ where
  entries := hentries
  distinct := List.nodup_nil
  fresh := List.forall_mem_nil _
  looked := List.forall_mem_nil _
  misses := by simp [hreport]
  built := by simp [hreport]
  hits := by simp [hreport, Note.returned]
  matched := by simp [hreport, Note.isOwn, Report.matched]
  calls := by simp [hreport]

/-- A look-up that adds an entry is a miss. -/
theorem of_miss {key : CacheKey} {m : CachedModel} (hentry : s.session.cache.get? key = none)
    (hentries : s₁.session.cache.entries = (key, m) :: s.session.cache.entries)
    (hreport : s₁.run.report = { s.run.report with
      cacheMisses := s.run.report.cacheMisses + 1,
      modelsBuilt := s.run.report.modelsBuilt + if m.parsed then 1 else 0 }) :
    Balance s [(key, m)] [.look key (.ok m)] s₁ where
  entries := hentries
  distinct := List.nodup_singleton key
  fresh := by
    rintro _ hkey
    rwa [List.mem_singleton.mp hkey]
  looked := by
    intro entry hentry
    rw [List.mem_singleton.mp hentry]
    exact List.mem_cons_self
  misses := by simp [hreport]
  built := by cases hparsed : m.parsed <;> simp [hreport, hparsed]
  hits := by simp [hreport, Note.returned]
  matched := by simp [hreport, Note.isOwn, Report.matched]
  calls := by simp [hreport]

/-- A match in the element's own file is counted with its tier. -/
theorem of_own {m : Match α} {tier : Tier} (hcache : s₁.session.cache = s.session.cache)
    (hreport : s₁.run.report = s.run.report.countTier tier) : Balance s [] [.own m] s₁ where
  entries := congrArg Cache.entries hcache
  distinct := List.nodup_nil
  fresh := List.forall_mem_nil _
  looked := List.forall_mem_nil _
  misses := by simp [hreport, Report.countTier]
  built := by simp [hreport, Report.countTier]
  hits := by simp [hreport, Report.countTier, Note.returned]
  matched := by
    rw [hreport]
    exact s.run.report.matched_countTier tier
  calls := by rw [hreport]; rfl

/-- **Balances add up.** -/
theorem trans (h : Balance s added ns s₁) (h' : Balance s₁ more ns' s₂) :
    Balance s (more ++ added) (ns ++ ns') s₂ where
  entries := by rw [h'.entries, h.entries, List.append_assoc]
  distinct := by
    rw [List.map_append]
    refine List.Nodup.append h'.distinct h.distinct fun key hmore hadded => ?_
    exact ((Cache.get?_append h.entries key).mp (h'.fresh key hmore)).1 hadded
  fresh key hkey := by
    rw [List.map_append] at hkey
    rcases List.mem_append.mp hkey with hkey | hkey
    · exact ((Cache.get?_append h.entries key).mp (h'.fresh key hkey)).2
    · exact h.fresh key hkey
  looked := by
    intro entry hentry
    rcases List.mem_append.mp hentry with hentry | hentry
    · exact List.mem_append_right _ (h'.looked entry hentry)
    · exact List.mem_append_left _ (h.looked entry hentry)
  misses := by
    rw [h'.misses, h.misses, List.length_append]
    omega
  built := by
    rw [h'.built, h.built, List.countP_append]
    omega
  hits := by
    have hfirst := h.hits
    have hnext := h'.hits
    rw [List.length_append, List.countP_append]
    omega
  matched := by
    rw [h'.matched, h.matched, List.countP_append]
    omega
  calls := by
    have hfirst := h.calls
    have hnext := h'.calls
    omega

end Balance

namespace Walk
variable {β γ : Type} {x : Walk σ α β} {ns : Notes σ α} {f : β → Walk σ α γ}
  {next : β → Notes σ α}

/-- Whatever comes of the action, the report counts what it notes. -/
def Noted (x : Walk σ α β) (ns : Notes σ α) : Prop := ∀ s, ∃ added, Balance s added (ns s) (x s).2

/-- An action that changes neither the cache nor what is counted has nothing to note. -/
theorem noted_of_same (h : ∀ s, (x s).2.session.cache = s.session.cache ∧
    (x s).2.run.report.lookups = s.run.report.lookups ∧
    (x s).2.run.report.walkerCalls + s.run.report.commitsAnalysed
      = s.run.report.walkerCalls + (x s).2.run.report.commitsAnalysed) : Noted x .none :=
  fun s => ⟨[], .of_same (congrArg Cache.entries (h s).1) (h s).2.1 (h s).2.2
    (List.forall_mem_nil _)⟩

/-- An action that leaves the cache and the report alone. -/
theorem noted_still (h : ∀ s, (x s).2.session.cache = s.session.cache ∧
    (x s).2.run.report = s.run.report) : Noted x .none :=
  noted_of_same fun s => ⟨(h s).1, by rw [(h s).2], by rw [(h s).2]⟩

theorem noted_pure (b : β) : Noted (pure b : Walk σ α β) .none :=
  noted_still fun _ => ⟨rfl, rfl⟩

theorem noted_bind (hx : Noted x ns) (hf : ∀ b, Noted (f b) (next b)) :
    Noted (x >>= f) (ns.andThen x next) := by
  intro s
  obtain ⟨added, hadded⟩ := hx s
  unfold Notes.andThen
  rcases hs : x s with ⟨stop | b, s₁⟩ <;> rw [hs] at hadded
  · rw [bind_of_error (congrArg Prod.fst hs), hs]
    exact ⟨added, (List.append_nil (ns s)).symm ▸ hadded⟩
  · obtain ⟨more, hmore⟩ := hf b s₁
    rw [bind_of_ok (congrArg Prod.fst hs), hs]
    exact ⟨more ++ added, hadded.trans hmore⟩

/-- An action that is followed by ones that note nothing. -/
theorem noted_before (hx : Noted x ns) (hf : ∀ b, Noted (f b) .none) : Noted (x >>= f) ns := by
  have hall := noted_bind hx hf
  have hnone : ns.andThen x (fun _ => Notes.none) = ns := by
    funext s
    unfold Notes.andThen
    rcases x s with ⟨_ | b, s₁⟩ <;> exact List.append_nil _
  rwa [hnone] at hall

/-- What comes of a sequence is noted where it is known of what follows its first action. -/
theorem noted_outcome {last : γ → Notes σ α} (hx : Noted x ns)
    (hf : ∀ b, Noted (f b) (Notes.none.andThen (f b) last)) :
    Noted (x >>= f) (ns.andThen (x >>= f) last) := by
  have hsame : ns.andThen (x >>= f) last
      = ns.andThen x fun b => Notes.none.andThen (f b) last := by
    funext s
    unfold Notes.andThen
    rw [bind_apply]
    rcases x s with ⟨_ | b, s₁⟩ <;> rfl
  rw [hsame]
  exact noted_bind hx hf

theorem noted_attempt (hx : Noted x ns) : Noted (attempt x) ns := by
  intro s
  rw [(attempt_apply s).2]
  exact hx s

theorem noted_tell (level : Level) (name : String) (fields : List (String × Json)) :
    Noted (tell level name fields : Walk σ α Unit) .none := noted_still fun _ => ⟨rfl, rfl⟩

theorem noted_ask (q : Asked σ β) : Noted (inSession (.ask q) : Walk σ α β) .none :=
  noted_still fun _ => ⟨rfl, rfl⟩

theorem noted_terminate (t : Termination) : Noted (terminate t : Walk σ α Unit) .none := by
  refine noted_still fun s => ?_
  obtain ⟨s', hend, hrun, hcache⟩ := terminate_apply t s
  rw [hend]
  exact ⟨hcache, (congrArg Run.report hrun).trans (s.run.report_finish t).1⟩

theorem noted_stopAll (a : Active) (rest : List Branch) :
    Noted (stopAll a rest : Walk σ α Unit) .none := by
  refine noted_still fun s => ?_
  obtain ⟨s', hstop, hrun, hcache⟩ := stopAll_apply a rest s
  rw [hstop]
  exact ⟨hcache, (congrArg Run.report hrun).trans (Run.report_foldl_finish _ _).1⟩

end Walk

namespace Walker
open Walk
variable (w : Walker σ α)

/-! ### Looking -/

/-- **Each look-up is counted as what it was**: a look-up that an entry answers is a hit, one that
adds an entry is a miss, and one that stops is not counted. -/
theorem noted_modelOf (id path : String) : Noted (w.modelOf id path) (w.lookNotes id path) := by
  intro s
  unfold lookNotes
  rw [modelOf_apply]
  rcases hentry : s.session.cache.get? (id, path) with _ | m
  · have hnew : s.session.cache.contains (id, path) = false := by rw [Cache.contains, hentry]; rfl
    by_cases hflight : s.session.cache.inFlight.contains (id, path) = true
    · rw [SessionM.modelOf_wait hentry hflight]
      exact ⟨[], .of_same rfl rfl rfl fun n hn => List.mem_singleton.mp hn ▸ ⟨rfl, rfl⟩⟩
    · rw [SessionM.modelOf_miss hentry (Bool.eq_false_iff.mpr hflight)]
      let x₀ : Session σ := { s.session with cache := { s.session.cache with
        inFlight := (id, path) :: s.session.cache.inFlight,
        misses := s.session.cache.misses + 1 } }
      have hentries : (SessionM.buildModel w.repository w.build id path x₀).2.cache.entries
          = s.session.cache.entries := (SessionM.buildModel_cache x₀).1
      rcases hbuilt : SessionM.buildModel w.repository w.build id path x₀ with ⟨stop | m, x₁⟩ <;>
        rw [hbuilt] at hentries
      · exact ⟨[], .of_same hentries rfl rfl fun n hn => List.mem_singleton.mp hn ▸ ⟨rfl, rfl⟩⟩
      · exact ⟨[((id, path), m)], .of_miss hentry (congrArg (((id, path), m) :: ·) hentries)
          (if_neg (Bool.eq_false_iff.mp hnew))⟩
  · have hold : s.session.cache.contains (id, path) = true := by rw [Cache.contains, hentry]; rfl
    rw [SessionM.modelOf_hit hentry]
    exact ⟨[], .of_hit rfl (if_pos hold)⟩

/-- Recording what was found is not counted. -/
theorem noted_record (origin : Active) (x : Finding α) : Noted (w.record origin x) .none := by
  refine noted_still fun s => ?_
  obtain ⟨s', hrecord, hrun, hcache⟩ := w.record_apply origin x s
  rw [hrecord]
  refine ⟨hcache, ?_⟩
  rw [hrun]
  cases x <;> rfl

/-- A version that is expanded is counted as often as its parents are asked for. -/
theorem noted_askParents (a : Active) : Noted (w.askParents a) .none := by
  refine noted_of_same fun s => ?_
  let s₁ : WalkState σ α := ⟨s.session, (s.run.onReport fun r =>
    { r with commitsAnalysed := r.commitsAnalysed + 1 }).onReport fun r =>
      { r with walkerCalls := r.walkerCalls + 1 }⟩
  have hasked : w.askParents a s
      = attempt (inSession (parentVersions w.repository a.commit.id a.path)) s₁ := rfl
  rw [hasked, (attempt_apply s₁).2]
  refine ⟨parentVersions_cache w.repository a.commit.id a.path s.session, rfl, ?_⟩
  show s.run.report.walkerCalls + 1 + s.run.report.commitsAnalysed
    = s.run.report.walkerCalls + (s.run.report.commitsAnalysed + 1)
  omega

variable [Score α]

theorem searchFiles_cons (origin : Active) (parent : Commit) (path : String) (rest : List String)
    (best : Option (Match α)) : w.searchFiles origin parent (path :: rest) best
      = w.searchFiles origin parent [path] best >>= w.searchFiles origin parent rest := by
  rw [searchFiles, searchFiles, bind_assoc]
  refine congrArg (attempt (w.modelOf parent.id path) >>= ·) (funext fun answer => ?_)
  rcases answer with f | earlier | _
  · rw [bind_assoc]
    rfl
  · dsimp only
    split <;> rfl
  · rfl

theorem noted_matchIn (origin : Active) (commit : Commit) (path : String) :
    Noted (w.matchIn origin commit path) (w.matchNotes origin commit path) := by
  refine noted_outcome (w.noted_modelOf commit.id path) fun cached => ?_
  cases cached with
  | unparseable => exact noted_pure _
  | model earlier =>
    dsimp only
    split
    · exact fun s => ⟨[], .of_own rfl rfl⟩
    · exact noted_before (noted_tell _ _ _) fun _ => noted_pure _
    · exact noted_pure _

theorem noted_searchFiles (origin : Active) (parent : Commit) (paths : List String)
    (best : Option (Match α)) :
    Noted (w.searchFiles origin parent paths best) (w.fileNotes origin parent paths best) := by
  induction paths generalizing best with
  | nil => exact noted_pure best
  | cons path rest ih =>
    rw [searchFiles_cons]
    refine noted_bind
      (noted_before (noted_attempt (w.noted_modelOf parent.id path)) fun answer => ?_) ih
    rcases answer with f | earlier | _
    · exact noted_before (noted_tell _ _ _) fun _ => noted_pure _
    · dsimp only
      split <;> exact noted_pure _
    · exact noted_pure _

theorem noted_findMoved (origin : Active) (parentId : String) :
    Noted (w.findMoved origin parentId) (w.moveNotes origin parentId) := by
  refine noted_bind (noted_attempt (noted_ask _)) fun answer => ?_
  rcases answer with f | paths
  · exact noted_before (noted_tell _ _ _) fun _ => noted_pure _
  · dsimp only
    split
    · exact noted_pure _
    · refine noted_bind (noted_attempt (noted_ask _)) fun answer => ?_
      rcases answer with f | parent
      · exact noted_before (noted_tell _ _ _) fun _ => noted_pure _
      · refine noted_before (w.noted_searchFiles _ _ _ _) fun best => ?_
        cases best with
        | none => exact noted_pure _
        | some m => exact noted_before (noted_tell _ _ _) fun _ => noted_pure _

theorem noted_followMove (origin : Active) (parentId : String) :
    Noted (w.followMove origin parentId) (w.followNotes origin parentId) := by
  unfold followMove followNotes
  split
  · exact w.noted_findMoved origin parentId
  · exact noted_pure _

theorem noted_examine (origin : Active) (v : ParentVersion) :
    Noted (w.examine origin v) (w.examineNotes origin v) := by
  refine noted_bind (noted_attempt (w.noted_matchIn origin v.commit v.path)) fun answer => ?_
  rcases answer with f | m | _ | _
  · exact noted_before (noted_tell _ _ _) fun _ => noted_pure _
  · exact noted_pure _
  · exact noted_before (w.noted_followMove _ _) fun _ => noted_pure _
  · exact noted_pure _

theorem noted_examineParent (origin : Active) (parentId : String) :
    Noted (w.examineParent origin parentId) (w.followNotes origin parentId) :=
  noted_before (w.noted_followMove _ _) fun _ => noted_pure _

omit [Score α] in
/-- Looking into places one after the other and recording what is found. -/
theorem noted_places {ι : Type} {origin : Active} {look : ι → Walk σ α (Finding α)}
    {notes : ι → Notes σ α} (hlook : ∀ i, Noted (look i) (notes i)) (is : List ι) :
    Noted (is.mapM fun i => look i >>= w.record origin) (w.placeNotes origin look notes is) := by
  induction is with
  | nil => exact noted_pure []
  | cons i is ih =>
    rw [List.mapM_cons]
    exact noted_bind (noted_before (hlook i) fun x => w.noted_record origin x) fun r =>
      noted_before ih fun _ => noted_pure _

/-! ### Steps -/

theorem noted_resolve (a : Active) (vs : List ParentVersion) :
    Noted (w.resolve a vs) (w.placeNotes a (w.examine a) (w.examineNotes a) vs) := by
  unfold resolve
  rw [funext (w.resolveVersion_eq a)]
  exact noted_before (w.noted_places (w.noted_examine a) vs) fun _ => noted_pure _

omit [Score α] in
theorem askParents_bind {β : Type} (a : Active)
    (next : Except RepositoryFault (List ParentVersion) → Walk σ α β) :
    w.askParents a >>= next =
      onRun (Run.onReport fun r => { r with commitsAnalysed := r.commitsAnalysed + 1 }) >>=
        fun _ => onRun (Run.onReport fun r => { r with walkerCalls := r.walkerCalls + 1 }) >>=
          fun _ => attempt (inSession (parentVersions w.repository a.commit.id a.path)) >>=
            next := by
  unfold askParents
  simp only [bind_assoc]

theorem noted_moves (a : Active) : Noted (a.commit.parentIds.mapM (w.movesFrom a))
    (w.placeNotes a (w.examineParent a) (w.followNotes a) a.commit.parentIds) := by
  rw [funext (w.movesFrom_eq a), mapM_map_outcome, ← bind_pure_comp]
  exact noted_before (w.noted_places (w.noted_examineParent a) _) fun _ => noted_pure _

theorem noted_advance (a : Active) : Noted (w.advance a) (w.advanceNotes a) := by
  unfold advance nextBranches
  simp only [bind_assoc]
  rw [← askParents_bind]
  refine noted_bind (w.noted_askParents a) fun answer => ?_
  refine noted_before ?_ fun _ => noted_before (noted_of_same fun _ => ⟨rfl, rfl, rfl⟩) fun _ =>
    noted_pure _
  rcases answer with f | _ | ⟨v, _ | ⟨v', vs⟩⟩
  · exact noted_before (noted_tell _ _ _) fun _ => noted_pure _
  · refine noted_before (w.noted_moves a) fun bss => ?_
    split <;> exact noted_pure _
  · exact w.noted_resolve a [v]
  · exact noted_before (noted_tell _ _ _) fun _ => noted_pure _

/-- **Every step is counted as it is noted.** -/
theorem noted_step (first : Branch) (rest : List Branch) :
    Noted (w.step first rest) (w.stepNotes first) := by
  cases first with
  | terminated t => exact noted_before (noted_terminate t) fun _ => noted_pure _
  | branching origin pending =>
    exact noted_before (w.noted_resolve origin pending) fun _ => noted_pure _
  | active a =>
    intro s
    rw [step_active, stepNotes]
    dsimp only
    split
    · exact noted_before (noted_stopAll a rest) (fun _ => noted_pure _) s
    · exact noted_before (w.noted_advance a) (fun _ => noted_pure _) s

/-- **Every walk is counted as it is noted.** -/
theorem noted_steps (fuel : Nat) (work : List Branch) :
    Noted (w.steps fuel work) (w.notes fuel work) := by
  induction fuel generalizing work with
  | zero => cases work <;> exact noted_pure _
  | succ fuel ih =>
    cases work with
    | nil => exact noted_pure _
    | cons first rest => exact noted_bind (w.noted_step first rest) ih

end Walker
end Lineage
