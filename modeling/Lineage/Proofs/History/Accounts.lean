import Lineage.Proofs.History.Steady

/-! # Accounts of walks

An account says what holds of all states of a walk, of the models that it is given and the versions
that it records, which commits and paths it meets, and why it may stop (`Account`).  What is said
of models and versions may depend on the cache, whose entries stay (`Cache.Sub`): once said, it
holds of all later caches.

An account holds of a walker if it holds of each look into a file, of each answer of the repository,
and of what is recorded (`Account.Holds`).  `Walk.Upholds` follows it from there through the actions
of a walk, once for all accounts: every step upholds it (`Account.Holds.step`).
-/
namespace Lineage
variable {σ α : Type}

/-- The stop is a fault of the repository. -/
def Stop.IsFault (stop : Stop) : Prop := ∃ f, stop = .repository f

/-- The repository does not take some question of a walk. -/
def Repository.Declines (r : Repository σ) : Prop :=
  (∃ id s, (r.resolve id s).1 = .error .unsupported) ∨
    (∃ id path s, (r.parentsTouching id path s).1 = .error .unsupported) ∨
    ∃ id parent s, (r.changedPaths id parent s).1 = .error .unsupported

/-! ### Caches that grow -/

namespace Cache
variable {c c' c'' : Cache}

/-- The entries of a cache are entries of another one. -/
def Sub (c c' : Cache) : Prop := ∀ key m, c.get? key = some m → c'.get? key = some m

theorem sub_refl (c : Cache) : c.Sub c := fun _ _ => id

theorem Sub.trans (h : c.Sub c') (h' : c'.Sub c'') : c.Sub c'' :=
  fun key m hm => h' key m (h key m hm)

theorem sub_of_entries (h : c'.entries = c.entries) : c.Sub c' := by
  intro key m hm
  rwa [get?, h]

end Cache

/-! ### Actions -/

namespace Walk
variable {β γ : Type} {I : WalkState σ α → Prop} {c c' : Cache} {x : Walk σ α β}
  {P : Cache → β → Prop} {E : Stop → Prop}

/-- From states with a property, whose cache has the entries of a given one, the action leaves such
a state and all entries.  Its outcomes have a property in the cache that it leaves, and the reasons
for which it stops have one. -/
structure Upholds (I : WalkState σ α → Prop) (c : Cache) (x : Walk σ α β) (P : Cache → β → Prop)
    (E : Stop → Prop) : Prop where
  keeps : ∀ s, I s → c.Sub s.session.cache →
    I (x s).2 ∧ s.session.cache.Sub (x s).2.session.cache
  yields : ∀ s b, I s → c.Sub s.session.cache → (x s).1 = .ok b → P (x s).2.session.cache b
  stops : ∀ s stop, I s → c.Sub s.session.cache → (x s).1 = .error stop → E stop

/-- Where nothing makes an action stop it has an outcome. -/
theorem Upholds.exists_ok (hx : Upholds I c x P fun _ => False) {s : WalkState σ α} (hs : I s)
    (hc : c.Sub s.session.cache) : ∃ b, x s = (.ok b, (x s).2) ∧ P (x s).2.session.cache b := by
  rcases houtcome : (x s).1 with stop | b
  · exact (hx.stops s stop hs hc houtcome).elim
  · exact ⟨b, Prod.ext houtcome rfl, hx.yields s b hs hc houtcome⟩

theorem Upholds.mono (hx : Upholds I c x P E) (hc : c.Sub c') : Upholds I c' x P E where
  keeps s hs hc' := hx.keeps s hs (hc.trans hc')
  yields s b hs hc' := hx.yields s b hs (hc.trans hc')
  stops s stop hs hc' := hx.stops s stop hs (hc.trans hc')

theorem upholds_pure {b : β} (h : ∀ c', c.Sub c' → P c' b) :
    Upholds I c (pure b : Walk σ α β) P E where
  keeps s hs _ := ⟨hs, s.session.cache.sub_refl⟩
  yields := by
    rintro s _ - hc ⟨⟩
    exact h _ hc
  stops := by
    rintro s _ - - ⟨⟩

theorem upholds_bind {f : β → Walk σ α γ} {Q : Cache → γ → Prop} (hx : Upholds I c x P E)
    (hf : ∀ c' b, c.Sub c' → P c' b → Upholds I c' (f b) Q E) : Upholds I c (x >>= f) Q E := by
  -- the second action starts from the cache that the first one leaves
  have hnext : ∀ s b, I s → c.Sub s.session.cache → (x s).1 = .ok b →
      Upholds I (x s).2.session.cache (f b) Q E := fun s b hs hc houtcome =>
    hf _ b (hc.trans (hx.keeps s hs hc).2) (hx.yields s b hs hc houtcome)
  constructor
  · intro s hs hc
    obtain ⟨hkept, hgrown⟩ := hx.keeps s hs hc
    rcases houtcome : (x s).1 with e | b
    · rw [bind_of_error houtcome]
      exact ⟨hkept, hgrown⟩
    · rw [bind_of_ok houtcome]
      exact ((hnext s b hs hc houtcome).keeps _ hkept (Cache.sub_refl _)).imp_right hgrown.trans
  · intro s d hs hc hd
    rcases houtcome : (x s).1 with e | b
    · rw [bind_of_error houtcome] at hd
      cases hd
    · rw [bind_of_ok houtcome] at hd ⊢
      exact (hnext s b hs hc houtcome).yields _ d (hx.keeps s hs hc).1 (Cache.sub_refl _) hd
  · intro s stop hs hc hstop
    rcases houtcome : (x s).1 with e | b
    · rw [bind_of_error houtcome] at hstop
      cases hstop
      exact hx.stops s _ hs hc houtcome
    · rw [bind_of_ok houtcome] at hstop
      exact (hnext s b hs hc houtcome).stops _ stop (hx.keeps s hs hc).1 (Cache.sub_refl _) hstop

/-- After an action of whose outcome nothing is used. -/
theorem upholds_after {f : β → Walk σ α γ} {Q : Cache → γ → Prop} (hx : Upholds I c x P E)
    (hf : ∀ b, Upholds I c (f b) Q E) : Upholds I c (x >>= f) Q E :=
  upholds_bind hx fun _ b hc _ => (hf b).mono hc

/-- An action that is tried does not stop for a fault. -/
theorem upholds_attempt (hx : Upholds I c x P fun stop => stop.IsFault ∨ E stop) :
    Upholds I c (attempt x) (fun c' r => ∀ b, r = .ok b → P c' b) E := by
  constructor
  · intro s hs hc
    rw [(attempt_apply s).2]
    exact hx.keeps s hs hc
  · rintro s _ hs hc hr b rfl
    rw [(attempt_apply s).2]
    exact hx.yields s b hs hc (attempt_eq_ok.mp hr)
  · intro s stop hs hc hstop
    rw [(attempt_apply s).1] at hstop
    rcases houtcome : (x s).1 with e | b
    · have hwhy := hx.stops s e hs hc houtcome
      rw [houtcome] at hstop
      -- a fault is an outcome here, so a stop has one of the other reasons
      cases e with
      | repository f => cases hstop
      | unsupported | model | stalled | unfinished =>
        cases hstop
        exact hwhy.resolve_left nofun
    · rw [houtcome] at hstop
      cases hstop

theorem upholds_mapM {ι : Type} {f : ι → Walk σ α β} {is : List ι}
    (hf : ∀ i ∈ is, Upholds I c (f i) (fun _ _ => True) E) :
    Upholds I c (is.mapM f) (fun _ _ => True) E := by
  induction is with
  | nil => exact upholds_pure fun _ _ => trivial
  | cons i is ih =>
    rw [List.mapM_cons]
    refine upholds_after (hf i List.mem_cons_self) fun _ => ?_
    exact upholds_after (ih fun i hi => hf i (List.mem_cons_of_mem _ hi)) fun _ =>
      upholds_pure fun _ _ => trivial

/-- Whether a state has the property depends on its cache and its nodes. -/
def OfStored (I : WalkState σ α → Prop) : Prop := ∀ s s', I s →
  s'.session.cache = s.session.cache → s'.run.nodes = s.run.nodes → I s'

/-- An action that touches neither the cache nor the nodes. -/
theorem upholds_still (hI : OfStored I)
    (hstill : ∀ s, (x s).2.session.cache = s.session.cache ∧ (x s).2.run.nodes = s.run.nodes)
    (hyields : ∀ s b, (x s).1 = .ok b → P (x s).2.session.cache b)
    (hstops : ∀ s stop, (x s).1 = .error stop → E stop) : Upholds I c x P E where
  keeps s hs _ := ⟨hI s _ hs (hstill s).1 (hstill s).2, Cache.sub_of_entries
    (congrArg Cache.entries (hstill s).1)⟩
  yields s b _ _ := hyields s b
  stops s stop _ _ := hstops s stop

theorem upholds_tell (hI : OfStored I) (level : Level) (name : String)
    (fields : List (String × Json)) :
    Upholds I c (tell level name fields : Walk σ α Unit) (fun _ _ => True) E :=
  upholds_still hI (fun _ => ⟨rfl, rfl⟩) (fun _ _ _ => trivial) fun _ _ h => nomatch h

/-- A refusal is a fault, or the repository does not take the question. -/
theorem stopOf_cases {refusal : Refusal} (h : refusal = .unsupported → E .unsupported) :
    (SessionM.stopOf refusal).IsFault ∨ E (SessionM.stopOf refusal) := by
  cases refusal with
  | fault f => exact .inl ⟨f, rfl⟩
  | unsupported => exact .inr (h rfl)

/-- A question gives an answer of the repository. -/
theorem upholds_ask (hI : OfStored I) {q : Asked σ β}
    (hq : ∀ s, (q s).1 = .error .unsupported → E .unsupported) :
    Upholds I c (inSession (.ask q) : Walk σ α β) (fun _ b => ∃ s, (q s).1 = .ok b)
      fun stop => stop.IsFault ∨ E stop := by
  refine upholds_still hI (fun _ => ⟨rfl, rfl⟩) (fun s _ h => ⟨s.session.world, ask_ok h⟩)
    fun s stop h => ?_
  obtain ⟨refusal, hanswer, rfl⟩ := ask_error h
  exact stopOf_cases fun heq => hq s.session.world (heq ▸ hanswer)

end Walk

/-! ### Following a move -/

namespace Walker
open Walk
variable [Score α] {w : Walker σ α} {I : WalkState σ α → Prop} {c : Cache} {E : Stop → Prop}
  {P : Cache → Match α → Prop} {origin : Active}

variable (w I E P origin) in
/-- What is accepted in a file at a parent has a property. -/
def Accepts (parent : Commit) (path : String) : Prop :=
  ∀ c, Upholds I c (w.modelOf parent.id path) (fun c' cached => ∀ earlier s kind,
    cached = .model earlier →
    (Lookup.mk origin.element origin.model earlier).elsewhere? w.matching = some (s, kind) →
    P c' ⟨parent, path, earlier, s.element, kind, s.score⟩) fun stop => stop.IsFault ∨ E stop

variable (hI : OfStored I) (hlater : ∀ c c' m, c.Sub c' → P c m → P c' m)
include hI hlater

theorem upholds_searchFiles {parent : Commit} {files : List String}
    (hfiles : ∀ p ∈ files, w.Accepts I E P origin parent p) {best : Option (Match α)}
    (hbest : ∀ m, best = some m → P c m) :
    Upholds I c (w.searchFiles origin parent files best) (fun c' r => ∀ m, r = some m → P c' m)
      E := by
  -- on the files: the best match so far keeps the property when the cache grows
  induction files generalizing best c with
  | nil => exact upholds_pure fun c' hc m hm => hlater c c' m hc (hbest m hm)
  | cons path files ih =>
    obtain ⟨hpath, hfiles⟩ := List.forall_mem_cons.mp hfiles
    refine upholds_bind (upholds_attempt (hpath c)) fun c' answer hc hanswer => ?_
    have hbefore : ∀ m, best = some m → P c' m := fun m hm => hlater c c' m hc (hbest m hm)
    split
    · exact upholds_after (upholds_tell hI _ _ _) fun _ => ih hfiles hbefore
    · exact ih hfiles hbefore
    · split
      · exact ih hfiles hbefore
      · rename_i earlier _ chosen kind hfound
        have hnew := hanswer _ rfl earlier chosen kind rfl hfound
        refine ih hfiles fun m hm => ?_
        unfold better at hm
        split at hm
        · cases hm
          exact hnew
        · split at hm
          · cases hm
            exact hnew
          · exact hbefore m hm

/-- The match that following a move gives was accepted in a file that the commit changed. -/
theorem upholds_findMoved {parentId : String} (hdeclines : w.repository.Declines → E .unsupported)
    (haccepts : ∀ s paths parent,
      (w.repository.changedPaths origin.commit.id parentId s).1 = .ok paths →
      w.repository.Resolves parentId parent →
      ∀ p ∈ w.moveSources origin paths, w.Accepts I E P origin parent p) :
    Upholds I c (w.findMoved origin parentId) (fun c' r => ∀ m, r = some m → P c' m) E := by
  refine upholds_bind (upholds_attempt (upholds_ask hI fun s h =>
    hdeclines (.inr (.inr ⟨_, _, s, h⟩)))) fun c' answer _ hchanged => ?_
  split
  · exact upholds_after (upholds_tell hI _ _ _) fun _ => upholds_pure fun _ _ _ h => nomatch h
  · rename_i changed
    obtain ⟨s, hs⟩ := hchanged changed rfl
    dsimp only
    split
    · exact upholds_pure fun _ _ _ h => nomatch h
    · refine upholds_bind (upholds_attempt (upholds_ask hI fun s h =>
        hdeclines (.inl ⟨_, s, h⟩))) fun c'' answer _ hresolved => ?_
      split
      · exact upholds_after (upholds_tell hI _ _ _) fun _ => upholds_pure fun _ _ _ h => nomatch h
      · rename_i parent
        refine upholds_bind (upholds_searchFiles hI hlater
          (haccepts s changed parent hs (hresolved parent rfl)) fun _ h => nomatch h)
          fun c₃ best _ hbest => ?_
        have hkept : ∀ c₄ : Cache, c₃.Sub c₄ → ∀ m, best = some m → P c₄ m :=
          fun c₄ hc m hm => hlater c₃ c₄ m hc (hbest m hm)
        split
        · exact upholds_after (upholds_tell hI _ _ _) fun _ => upholds_pure hkept
        · exact upholds_pure hkept

end Walker

/-! ### Accounts -/

/-- What is said of a walk: of its states, of the models that it is given and the versions that it
records, as the cache is then, of the commits and paths that it meets, and of why it stops. -/
structure Account (σ α : Type) where
  state : WalkState σ α → Prop
  model : Cache → CacheKey → CachedModel → Prop
  version : Cache → VersionKey → Prop
  commit : String → Prop
  path : String → Prop
  halts : Stop → Prop

namespace Account

/-- Why an action stops that is to be tried. -/
def Tried (A : Account σ α) (stop : Stop) : Prop := stop.IsFault ∨ A.halts stop

/-- The versions that a branch has put off are at commits and paths of the account. -/
def Names (A : Account σ α) : Branch → Prop
  | .branching _ vs => ∀ v ∈ vs, A.commit v.commit.id ∧ A.path v.path
  | .active _ | .terminated _ => True

/-- The account holds of a walker. -/
structure Holds (A : Account σ α) (w : Walker σ α) : Prop where
  /-- States with the same cache, and no other nodes than versions of the account. -/
  keeps : ∀ {s s' : WalkState σ α}, A.state s → s'.session.cache = s.session.cache →
    (∀ n ∈ s'.run.nodes, n ∈ s.run.nodes ∨ A.version s.session.cache n.key) → A.state s'
  later : ∀ {c c' key}, c.Sub c' → A.version c key → A.version c' key
  elements : ∀ {c id path m e}, A.commit id → A.path path → A.model c (id, path) (.model m) →
    e ∈ m.elements.toList → A.version c ⟨id, path, e.lines⟩
  looks : ∀ c id path, Walk.Upholds A.state c (w.modelOf id path)
    (fun c' m => A.model c' (id, path) m) A.Tried
  resolves : ∀ {id commit}, w.repository.Resolves id commit → A.commit commit.id
  touches : ∀ {id path v}, w.repository.Touches id path v → A.commit v.commit.id ∧ A.path v.path
  changes : ∀ {id parent s paths}, (w.repository.changedPaths id parent s).1 = .ok paths →
    ∀ p ∈ paths, A.path p
  declines : w.repository.Declines → A.halts .unsupported

namespace Holds
open Walk Walker
variable {β : Type} {A : Account σ α} {w : Walker σ α} {c : Cache} {E : Stop → Prop}
  (hA : A.Holds w)
include hA

theorem ofStored : OfStored A.state := fun _ _ hs hcache hnodes =>
  hA.keeps hs hcache fun _ hn => .inl (hnodes ▸ hn)

theorem onReport (f : Report → Report) :
    Upholds A.state c (onRun (Run.onReport f) : Walk σ α Unit) (fun _ _ => True) E :=
  upholds_still hA.ofStored (fun _ => ⟨rfl, rfl⟩) (fun _ _ _ => trivial) fun _ _ h => nomatch h

theorem terminate (t : Termination) :
    Upholds A.state c (Walk.terminate t : Walk σ α Unit) (fun _ _ => True) E := by
  refine upholds_still hA.ofStored (fun s => ?_) (fun _ _ _ => trivial) fun s stop h => ?_
  · obtain ⟨s', hend, hrun, hcache⟩ := terminate_apply t s
    rw [hend]
    refine ⟨hcache, ?_⟩
    rw [hrun]
    exact (congrArg Run.nodes (s.run.bare_finish t) :)
  · obtain ⟨s', hend, -⟩ := terminate_apply t s
    rw [hend] at h
    cases h

theorem stopAll (a : Active) (rest : List Branch) :
    Upholds A.state c (Walk.stopAll a rest : Walk σ α Unit) (fun _ _ => True) E := by
  refine upholds_still hA.ofStored (fun s => ?_) (fun _ _ _ => trivial) fun s stop h => ?_
  · obtain ⟨s', hstop, hrun, hcache⟩ := stopAll_apply a rest s
    rw [hstop]
    refine ⟨hcache, ?_⟩
    rw [hrun]
    exact (congrArg Run.nodes (Run.bare_foldl_finish
      { s.run with budgetExceeded := true } (.active a :: rest)) :)
  · obtain ⟨s', hstop, -⟩ := stopAll_apply a rest s
    rw [hstop] at h
    cases h

theorem parentVersions (id path : String) :
    Upholds A.state c (inSession (Walker.parentVersions w.repository id path) : Walk σ α _)
      (fun _ vs => ∀ v ∈ vs, A.commit v.commit.id ∧ A.path v.path) A.Tried := by
  refine upholds_still hA.ofStored
    (fun s => ⟨parentVersions_cache w.repository id path s.session, rfl⟩)
    (fun s vs h v hv => hA.touches (yields_parentVersions _ _ _ s vs _ (Prod.ext h rfl) v hv))
    fun s stop h => ?_
  obtain ⟨refusal, hanswer, rfl⟩ := parentVersions_error h
  exact stopOf_cases fun heq =>
    hA.declines (.inr (.inl ⟨id, path, s.session.world, heq ▸ hanswer⟩))

/-! ### Looking -/

section Looking
variable [Score α]

theorem matchIn (origin : Active) {commit : Commit} {path : String} (hcommit : A.commit commit.id)
    (hpath : A.path path) : Upholds A.state c (w.matchIn origin commit path)
      (fun c' r => ∀ m, r = .found m → A.version c' m.key) A.Tried := by
  refine upholds_bind (hA.looks _ _ _) fun c' cached _ hcached => ?_
  cases cached with
  | unparseable => exact upholds_pure fun _ _ _ h => nomatch h
  | model earlier =>
    dsimp only
    split
    · rename_i hfound
      refine upholds_after (hA.onReport _) fun _ => upholds_pure ?_
      rintro c'' hc m ⟨⟩
      exact hA.later hc (hA.elements hcommit hpath hcached
        (Lookup.chooses_of_search hfound).mem_elements)
    · exact upholds_after (upholds_tell hA.ofStored _ _ _) fun _ => upholds_pure fun _ _ _ h => nomatch h
    · exact upholds_pure fun _ _ _ h => nomatch h

theorem findMoved (origin : Active) (parentId : String) :
    Upholds A.state c (w.findMoved origin parentId)
      (fun c' r => ∀ m, r = some m → A.version c' m.key) A.halts := by
  refine upholds_findMoved (P := fun c m => A.version c m.key) hA.ofStored
    (fun _ _ _ => hA.later) hA.declines ?_
  intro s changed parent hchanged hresolved p hp c
  have hpath : A.path p := hA.changes hchanged p (List.filter_sublist.subset hp)
  -- what is accepted is an element of the model
  have hlook := hA.looks c parent.id p
  refine ⟨hlook.keeps, fun s m hs hc hm earlier chosen kind hmodel hfound => ?_, hlook.stops⟩
  have hearlier : A.model (w.modelOf parent.id p s).2.session.cache (parent.id, p)
      (.model earlier) := hmodel ▸ hlook.yields s m hs hc hm
  exact hA.elements (hA.resolves hresolved) hpath hearlier
    (Lookup.chooses_of_elsewhere? hfound).mem_elements

theorem followMove (origin : Active) (parentId : String) :
    Upholds A.state c (w.followMove origin parentId)
      (fun c' r => ∀ m, r = some m → A.version c' m.key) A.halts := by
  unfold Walker.followMove
  split
  · exact hA.findMoved origin parentId
  · exact upholds_pure fun _ _ _ h => nomatch h

theorem examine (origin : Active) {v : ParentVersion}
    (hv : A.commit v.commit.id ∧ A.path v.path) :
    Upholds A.state c (w.examine origin v)
      (fun c' x => ∀ m, x = .found m → A.version c' m.key) A.halts := by
  refine upholds_bind (upholds_attempt (hA.matchIn origin hv.1 hv.2)) fun c' answer _ hanswer => ?_
  rcases answer with f | m | _ | _
  · exact upholds_after (upholds_tell hA.ofStored _ _ _) fun _ => upholds_pure fun _ _ _ h => nomatch h
  · exact upholds_pure fun _ hc _ h => Finding.found.inj h ▸ hA.later hc (hanswer _ rfl m rfl)
  · exact upholds_bind (hA.followMove _ _) fun _ _ _ hmoved =>
      upholds_pure fun _ hc m hm => hA.later hc (hmoved m (Finding.ofMove_eq_found.mp hm))
  · exact upholds_pure fun _ _ _ h => nomatch h

theorem examineParent (origin : Active) (parentId : String) :
    Upholds A.state c (w.examineParent origin parentId)
      (fun c' x => ∀ m, x = .found m → A.version c' m.key) A.halts :=
  upholds_bind (hA.followMove _ _) fun _ _ _ hmoved =>
    upholds_pure fun _ hc m hm => hA.later hc (hmoved m (Finding.ofMove_eq_found.mp hm))

end Looking

/-! ### Steps -/

theorem record (origin : Active) {x : Finding α}
    (hx : ∀ m, x = .found m → A.version c m.key) :
    Upholds A.state c (w.record origin x) (fun _ _ => True) E := by
  have hrecord := fun s => w.record_apply origin x s
  constructor
  · intro s hs hc
    obtain ⟨s', hs', hrun, hcache⟩ := hrecord s
    rw [hs']
    refine ⟨hA.keeps hs hcache fun n hn => ?_, Cache.sub_of_entries (by rw [hcache])⟩
    rw [hrun] at hn
    cases x with
    | failed t | absent => exact .inl hn
    | found m =>
      refine (Run.eq_of_mem_nodesWith hn).imp_right fun hkey => ?_
      rw [hkey]
      exact hA.later hc (hx m rfl)
  · exact fun _ _ _ _ _ => trivial
  · intro s stop _ _ hstop
    obtain ⟨s', hs', -⟩ := hrecord s
    rw [hs'] at hstop
    cases hstop

variable [Score α]

theorem resolveVersion (origin : Active) {v : ParentVersion}
    (hv : A.commit v.commit.id ∧ A.path v.path) :
    Upholds A.state c (w.resolveVersion origin v) (fun _ _ => True) A.halts := by
  rw [w.resolveVersion_eq]
  exact upholds_bind (hA.examine origin hv) fun _ _ _ hx => hA.record origin hx

theorem resolve (origin : Active) {pending : List ParentVersion}
    (hpending : ∀ v ∈ pending, A.commit v.commit.id ∧ A.path v.path) :
    Upholds A.state c (w.resolve origin pending) (fun _ _ => True) A.halts :=
  upholds_after (upholds_mapM fun v hv => hA.resolveVersion origin (hpending v hv)) fun _ =>
    upholds_pure fun _ _ => trivial

theorem movesFrom (a : Active) (parentId : String) :
    Upholds A.state c (w.movesFrom a parentId) (fun _ _ => True) A.halts := by
  rw [w.movesFrom_eq, ← bind_pure_comp]
  refine upholds_after (upholds_bind (hA.examineParent a parentId) fun _ _ _ hx =>
    hA.record a hx) fun _ => upholds_pure fun _ _ => trivial

theorem advance (a : Active) :
    Upholds A.state c (w.advance a) (fun _ _ => True) A.halts := by
  have hnext : Upholds A.state c (w.nextBranches a) (fun _ _ => True) A.halts := by
    refine upholds_after (hA.onReport _) fun _ =>
      upholds_bind (upholds_attempt (hA.parentVersions _ _)) fun c' answer _ hanswer => ?_
    rcases answer with f | _ | ⟨v, _ | ⟨v', vs⟩⟩
    · exact upholds_after (upholds_tell hA.ofStored _ _ _) fun _ => upholds_pure fun _ _ => trivial
    · refine upholds_after (upholds_mapM fun p _ => hA.movesFrom a p) fun bss => ?_
      dsimp only
      split <;> exact upholds_pure fun _ _ => trivial
    · exact hA.resolve a (hanswer _ rfl)
    · exact upholds_after (upholds_tell hA.ofStored _ _ _) fun _ => upholds_pure fun _ _ => trivial
  exact upholds_after (hA.onReport _) fun _ => upholds_after hnext fun _ =>
    upholds_after (hA.onReport _) fun _ => upholds_pure fun _ _ => trivial

/-- **Every step upholds the account.** -/
theorem step {first : Branch} (hfirst : A.Names first) (rest : List Branch) :
    Upholds A.state c (w.step first rest) (fun _ _ => True) A.halts := by
  cases first with
  | terminated t => exact upholds_after (hA.terminate t) fun _ => upholds_pure fun _ _ => trivial
  | branching origin pending =>
    exact upholds_after (hA.resolve origin hfirst) fun _ => upholds_pure fun _ _ => trivial
  | active a =>
    have hget : Upholds A.state c (get : Walk σ α (WalkState σ α)) (fun _ _ => True) A.halts :=
      upholds_still hA.ofStored (fun _ => ⟨rfl, rfl⟩) (fun _ _ _ => trivial) fun _ _ h => nomatch h
    refine upholds_after hget fun s => ?_
    split
    · exact upholds_after (hA.stopAll a rest) fun _ => upholds_pure fun _ _ => trivial
    · exact upholds_after (hA.advance a) fun _ => upholds_pure fun _ _ => trivial

/-- The versions that a turn puts off are those of the account. -/
theorem names_of_postponed {first : Branch} {s : WalkState σ α} {a : Active}
    {vs : List ParentVersion} (h : w.turn first s = .postponed a vs) :
    A.Names (.branching a vs) := by
  cases first with
  | terminated t => cases h
  | branching b us => cases h
  | active b =>
    rw [turn] at h
    split at h
    · cases h
    · split at h
      · cases h
      · cases h
      · cases h
      · rename_i hasked
        cases h
        exact fun v hv => hA.touches (w.yields_askParents _ s _ _ hasked _ rfl v hv)
      · cases h

/-- **All that a walk has put off is named** by the account. -/
theorem names {seed : Active} {x : Session σ} {log : List (Turn α)} {s : WalkState σ α}
    {work : List Branch} (h : w.Walked seed x log s work) : ∀ b ∈ work, A.Names b := by
  have hall : (∀ b ∈ work, A.Names b) ∧ ∀ turn ∈ log, ∀ a vs, turn = .postponed a vs →
      A.Names (.branching a vs) :=
    h.forall_turns trivial (fun _ => trivial) (fun _ _ _ _ _ => hA.names_of_postponed)
      (fun a vs hturn => hturn a vs rfl) fun _ _ _ _ _ => trivial
  exact hall.1

/-- A walk stops for a reason of the account. -/
theorem steps_stop {seed : Active} {x : Session σ} {log : List (Turn α)} {s : WalkState σ α}
    {work : List Branch} (h : w.Walked seed x log s work) (hs : A.state s) {fuel : Nat}
    {stop : Stop} (hstop : (w.steps fuel work s).1 = .error stop) : A.halts stop := by
  induction fuel generalizing log s work with
  | zero => cases work <;> cases hstop
  | succ fuel ih =>
    cases work with
    | nil => cases hstop
    | cons first rest =>
      have hstep := hA.step (c := s.session.cache) (hA.names h first List.mem_cons_self) rest
      -- the step stops the walk, or the rest of it goes on from a state of the account
      rcases houtcome : w.step first rest s with ⟨e | work', s'⟩
      · rw [Walker.steps, bind_apply, houtcome] at hstop
        cases hstop
        exact hstep.stops s _ hs (Cache.sub_refl _) (congrArg Prod.fst houtcome)
      · have hkept := (hstep.keeps s hs (Cache.sub_refl _)).1
        rw [houtcome] at hkept
        rw [Walker.steps, bind_apply, houtcome] at hstop
        exact ih (h.step houtcome) hkept hstop

end Holds
end Account

/-! ### Looking up a model -/

namespace Walker
open Walk
variable (w : Walker σ α)

/-- Looking up a model leaves the entries there are, and an entry for what it gives; it stops where
the model is being built already, or where it cannot be built. -/
theorem modelOf_enters (id path : String) (s : Session σ) :
    s.cache.Sub (SessionM.modelOf w.repository w.build id path s).2.cache ∧
      (∀ m, (SessionM.modelOf w.repository w.build id path s).1 = .ok m →
        (SessionM.modelOf w.repository w.build id path s).2.cache.get? (id, path) = some m) ∧
      ∀ stop, (SessionM.modelOf w.repository w.build id path s).1 = .error stop →
        stop = .stalled ∨
          ∃ s', (SessionM.buildModel w.repository w.build id path s').1 = .error stop := by
  rcases hentry : s.cache.get? (id, path) with _ | m
  · by_cases hflight : s.cache.inFlight.contains (id, path) = true
    · rw [SessionM.modelOf_wait hentry hflight]
      exact ⟨Cache.sub_refl _, nofun, fun stop h => .inl (Except.error.inj h).symm⟩
    · rw [SessionM.modelOf_miss hentry (Bool.eq_false_iff.mpr hflight)]
      let s₀ : Session σ := { s with cache := { s.cache with
        inFlight := (id, path) :: s.cache.inFlight, misses := s.cache.misses + 1 } }
      have hentries :
          (SessionM.buildModel w.repository w.build id path s₀).2.cache.entries =
            s.cache.entries :=
        (SessionM.buildModel_cache s₀).1
      rcases hbuilt : SessionM.buildModel w.repository w.build id path s₀ with ⟨stop | m, s₁⟩
      · rw [hbuilt] at hentries
        refine ⟨Cache.sub_of_entries hentries, nofun, fun _ h => .inr ⟨s₀, ?_⟩⟩
        cases h
        exact congrArg Prod.fst hbuilt
      · rw [hbuilt] at hentries
        refine ⟨fun key m' hm' => ?_, fun _ h => ?_, fun _ h => nomatch h⟩
        · show List.lookup key (((id, path), m) :: s₁.cache.entries) = some m'
          rw [hentries, List.lookup_cons]
          split
          · -- there was no entry for the key that the new one could hide
            rename_i hkey
            rw [eq_of_beq hkey, hentry] at hm'
            cases hm'
          · exact hm'
        · cases h
          show List.lookup (id, path) (((id, path), m) :: s₁.cache.entries) = some m
          rw [List.lookup_cons, beq_self_eq_true]
  · rw [SessionM.modelOf_hit hentry]
    refine ⟨Cache.sub_of_entries rfl, fun m' h => ?_, nofun⟩
    cases h
    exact hentry

/-- Looking up a model adds to the cache, whatever the account says; no version is recorded. -/
theorem modelOf_still (id path : String) (s : WalkState σ α) :
    s.session.cache.Sub (w.modelOf id path s).2.session.cache ∧
      (w.modelOf id path s).2.run.nodes = s.run.nodes := by
  rw [(w.modelOf_session id path s).2]
  exact ⟨(w.modelOf_enters id path s.session).1,
    (congrArg Run.nodes (w.reads_modelOf id path s) :)⟩

/-- Looking up a model in a cache that is right gives what is built, and leaves the cache right. -/
theorem upholds_modelOf (c : Cache) (id path : String) :
    Upholds (fun s : WalkState σ α => w.Remembers s.session.cache) c (w.modelOf id path)
      (fun _ cached => w.Builds id path cached) fun _ => True where
  keeps s hs _ := by
    refine ⟨?_, (w.modelOf_still id path s).1⟩
    rw [(w.modelOf_session id path s).2]
    exact remembers_modelOf hs
  yields s cached hs _ h := by
    rw [(w.modelOf_session id path s).1] at h
    obtain ⟨s', hs'⟩ :=
      (modelOf_outcome hs : ∃ s', (SessionM.modelOf w.repository w.build id path s.session).1 = _)
    exact ⟨s', hs'.symm.trans h⟩
  stops _ _ _ _ _ := trivial

end Walker
end Lineage
