import Lineage.Proofs.History.Walks

/-! # Walks in a repository that does not change

If the answers of a repository depend only on the questions (`Repository.Steady`), then what
looking for an earlier version gives does not depend on when it is done: the world does not
matter, and the cache returns what building a model would give (`Walker.Remembers`).
`Walk.Steady` says so of an action, and is closed under sequencing, so that it holds of
looking into an earlier version of a file (`steady_matchIn`) and of following a move
(`steady_followMove`).

Hence looking can be described without states: `Walk.Gives` runs an action on an empty cache.
The turn of each step finds exactly what looking gives in the places that the repository
names (`Walker.Finds`), no more and no less (`finds_of_step`).
-/
namespace Lineage
variable {σ : Type}

/-! ### Repositories -/

/-- The answer does not depend on the world. -/
def Asked.Steady {β : Type} (q : Asked σ β) : Prop := ∀ s s', (q s).1 = (q s').1

/-- The answers of a repository depend on the questions only. -/
structure Repository.Steady (r : Repository σ) : Prop where
  resolve : ∀ id, (r.resolve id).Steady
  parentsTouching : ∀ id path, (r.parentsTouching id path).Steady
  readBlob : ∀ id path, (r.readBlob id path).Steady
  changedPaths : ∀ id parent, (r.changedPaths id parent).Steady

variable {α : Type}

/-- What reading and parsing a file at a commit gives. -/
def Walker.Builds (w : Walker σ α) (id path : String) (m : CachedModel) : Prop :=
  ∃ s, (SessionM.buildModel w.repository w.build id path s).1 = .ok m

/-- No model is being built, and those that are in the cache are what building gives. -/
structure Walker.Remembers (w : Walker σ α) (c : Cache) : Prop where
  idle : c.inFlight = []
  entries : ∀ id path m, c.get? (id, path) = some m → w.Builds id path m

/-- The model of a match is the one of its file at its commit. -/
def Match.Built (w : Walker σ α) (m : Match α) : Prop :=
  w.Builds m.commit.id m.path (.model m.model)

/-! ### Actions -/

namespace Walk
variable {β γ : Type} {I : Cache → Prop} {x : Walk σ α β} {P : β → Prop}

/-- On caches with a property, the outcome of the action does not depend on the state, the
property is kept, and outcomes have a property. -/
structure Steady (I : Cache → Prop) (x : Walk σ α β) (P : β → Prop) : Prop where
  same : ∀ s s', I s.session.cache → I s'.session.cache → (x s).1 = (x s').1
  keeps : ∀ s, I s.session.cache → I (x s).2.session.cache
  yields : ∀ s b, I s.session.cache → (x s).1 = .ok b → P b

/-- The action has the outcome when it starts with an empty cache. -/
def Gives (x : Walk σ α β) (b : β) : Prop := ∃ s, s.session.cache = {} ∧ (x s).1 = .ok b

/-- From any good cache a steady action has the outcome that it has from the empty one. -/
theorem Steady.gives_iff (hx : Steady I x P) (hempty : I {}) {s : WalkState σ α}
    (hs : I s.session.cache) {b : β} : Gives x b ↔ (x s).1 = .ok b := by
  constructor
  · rintro ⟨s', hs', hb⟩
    exact (hx.same s s' hs (hs' ▸ hempty)).trans hb
  · intro hb
    let s' : WalkState σ α := { s with session := { s.session with cache := {} } }
    exact ⟨s', rfl, (hx.same s' s hempty hs).trans hb⟩

theorem tryCatch_apply {τ : Type} (x : ExceptT Stop (StateM τ) β)
    (f : Stop → ExceptT Stop (StateM τ) β) (s : τ) : tryCatch x f s = match x s with
      | (.ok b, s') => (.ok b, s')
      | (.error e, s') => f e s' := by
  have hcatch : tryCatch x f = ExceptT.tryCatch x f := rfl
  have hbind : ∀ g : Except Stop β → StateM τ (Except Stop β),
      (x.run >>= g) s = g (x s).1 (x s).2 := fun _ => rfl
  rw [hcatch, ExceptT.tryCatch]
  refine (hbind _).trans ?_
  rcases x s with ⟨_ | b, s'⟩ <;> rfl

theorem steady_pure {b : β} (h : P b) : Steady I (pure b : Walk σ α β) P where
  same _ _ _ _ := rfl
  keeps _ hs := hs
  yields := by
    rintro s _ - ⟨⟩
    exact h

theorem steady_bind {f : β → Walk σ α γ} {Q : γ → Prop} (hx : Steady I x P)
    (hf : ∀ b, P b → Steady I (f b) Q) : Steady I (x >>= f) Q := by
  constructor
  · intro s s' hs hs'
    have hsame := hx.same s s' hs hs'
    rcases houtcome : (x s).1 with e | b
    · rw [bind_of_error houtcome, bind_of_error (hsame.symm.trans houtcome)]
    · rw [bind_of_ok houtcome, bind_of_ok (hsame.symm.trans houtcome)]
      exact (hf b (hx.yields s b hs houtcome)).same _ _ (hx.keeps s hs) (hx.keeps s' hs')
  · intro s hs
    rcases houtcome : (x s).1 with e | b
    · rw [bind_of_error houtcome]
      exact hx.keeps s hs
    · rw [bind_of_ok houtcome]
      exact (hf b (hx.yields s b hs houtcome)).keeps _ (hx.keeps s hs)
  · intro s c hs hc
    rcases houtcome : (x s).1 with e | b
    · rw [bind_of_error houtcome] at hc
      cases hc
    · rw [bind_of_ok houtcome] at hc
      exact (hf b (hx.yields s b hs houtcome)).yields _ c (hx.keeps s hs) hc

theorem attempt_apply (s : WalkState σ α) :
    (attempt x s).1 = (match (x s).1 with
      | .ok b => .ok (.ok b)
      | .error (.repository f) => .ok (.error f)
      | .error stop => .error stop) ∧ (attempt x s).2 = (x s).2 := by
  unfold attempt
  rcases x s with ⟨e | b, s₁⟩
  · cases e <;> exact ⟨rfl, rfl⟩
  · exact ⟨rfl, rfl⟩

/-- An action that was tried has the outcomes of the action. -/
theorem attempt_eq_ok {s : WalkState σ α} {b : β} :
    (attempt x s).1 = .ok (.ok b) ↔ (x s).1 = .ok b := by
  rw [(attempt_apply s).1]
  rcases (x s).1 with e | b'
  · refine iff_of_false (fun h => ?_) fun h => nomatch h
    cases e <;> cases h
  · exact ⟨fun h => congrArg Except.ok (Except.ok.inj (Except.ok.inj h)),
      fun h => congrArg (Except.ok ∘ Except.ok) (Except.ok.inj h)⟩

theorem steady_attempt (hx : Steady I x P) :
    Steady I (attempt x) fun r => ∀ b, r = .ok b → P b := by
  constructor
  · intro s s' hs hs'
    rw [(attempt_apply s).1, (attempt_apply s').1, hx.same s s' hs hs']
  · intro s hs
    rw [(attempt_apply s).2]
    exact hx.keeps s hs
  · rintro s _ hs hr b rfl
    exact hx.yields s b hs (attempt_eq_ok.mp hr)

theorem steady_onRun (f : Run α → Run α) :
    Steady I (onRun f : Walk σ α Unit) fun _ => True :=
  ⟨fun _ _ _ _ => rfl, fun _ hs => hs, fun _ _ _ _ => trivial⟩

theorem steady_tell (level : Level) (name : String) (fields : List (String × Json)) :
    Steady I (tell level name fields : Walk σ α Unit) fun _ => True :=
  ⟨fun _ _ _ _ => rfl, fun _ hs => hs, fun _ _ _ _ => trivial⟩

theorem steady_ask {q : Asked σ β} (hq : q.Steady) :
    Steady I (inSession (.ask q) : Walk σ α β) fun _ => True :=
  ⟨fun s s' _ _ => congrArg (Except.mapError SessionM.stopOf) (hq s.session.world s'.session.world),
    fun _ hs => hs, fun _ _ _ _ => trivial⟩

/-! ### What actions give -/

/-- A steady action gives one outcome. -/
theorem Steady.gives_unique (hx : Steady I x P) (hempty : I {}) {b b' : β} (h : Gives x b)
    (h' : Gives x b') : b = b' := by
  obtain ⟨s, hs, hb⟩ := h
  exact Except.ok.inj (hb.symm.trans ((hx.gives_iff hempty (hs ▸ hempty)).mp h'))

theorem Steady.of_gives (hx : Steady I x P) (hempty : I {}) {b : β} (h : Gives x b) : P b := by
  obtain ⟨s, hs, hb⟩ := h
  exact hx.yields s b (hs ▸ hempty) hb

theorem Yields.of_gives (hx : Yields x P) {b : β} (h : Gives x b) : P b := by
  obtain ⟨s, -, hb⟩ := h
  exact hx s b _ (Prod.ext hb rfl)

theorem gives_attempt {b : β} : Gives (attempt x) (.ok b) ↔ Gives x b :=
  exists_congr fun _ => and_congr_right fun _ => attempt_eq_ok

theorem Gives.of_pure {b c : β} (h : Gives (pure b : Walk σ α β) c) : c = b := by
  obtain ⟨s, -, hc⟩ := h
  exact (Except.ok.inj hc).symm

/-- A sequence gives what its second action gives after the outcome of the first. -/
theorem Steady.gives_bind {f : β → Walk σ α γ} {Q : γ → Prop} (hx : Steady I x P)
    (hf : ∀ b, P b → Steady I (f b) Q) (hempty : I {}) {c : γ} :
    Gives (x >>= f) c ↔ ∃ b, Gives x b ∧ Gives (f b) c := by
  constructor
  · rintro ⟨s, hs, hc⟩
    have hgood : I s.session.cache := hs ▸ hempty
    rcases houtcome : (x s).1 with e | b
    · rw [bind_of_error houtcome] at hc
      cases hc
    · rw [bind_of_ok houtcome] at hc
      have hP := hx.yields s b hgood houtcome
      exact ⟨b, ⟨s, hs, houtcome⟩, ((hf b hP).gives_iff hempty (hx.keeps s hgood)).mpr hc⟩
  · rintro ⟨b, ⟨s, hs, houtcome⟩, hc⟩
    have hgood : I s.session.cache := hs ▸ hempty
    refine ⟨s, hs, ?_⟩
    rw [bind_of_ok houtcome]
    exact ((hf b (hx.yields s b hgood houtcome)).gives_iff hempty (hx.keeps s hgood)).mp hc

/-- An action that gives something is followed by one that gives what it returns. -/
theorem Gives.pure_after {b : β} (h : Gives x b) (c : γ) : Gives (pure c : Walk σ α γ) c := by
  obtain ⟨s, hs, -⟩ := h
  exact ⟨s, hs, rfl⟩

end Walk

/-! ### Models -/

/-- The file could be parsed. -/
def CachedModel.parsed : CachedModel → Bool
  | .model _ => true
  | .unparseable => false

namespace SessionM
open Walk
variable {r : Repository σ} {build : ModelBuilder} {id path : String}

/-- Building does not look at the cache, and leaves its entries. -/
theorem buildModel_cache (s : Session σ) :
    (buildModel r build id path s).2.cache.entries = s.cache.entries ∧
      (buildModel r build id path s).2.cache.inFlight = s.cache.inFlight := by
  unfold buildModel
  rcases hbytes : (ask (r.readBlob id path) s).1 with stop | bytes
  · rw [bind_of_error hbytes]
    exact ⟨rfl, rfl⟩
  · rw [bind_of_ok hbytes]
    rcases build bytes path with fault | m
    · cases fault <;> exact ⟨rfl, rfl⟩
    · exact ⟨rfl, rfl⟩

/-- A model is built from the bytes of a file. -/
theorem buildModel_ok {m : Model} {s : Session σ}
    (h : (buildModel r build id path s).1 = .ok (.model m)) :
    ∃ bytes, (r.readBlob id path s.world).1 = .ok bytes ∧ build bytes path = .ok m := by
  unfold buildModel at h
  rcases hbytes : (ask (r.readBlob id path) s).1 with stop | bytes
  · rw [bind_of_error hbytes] at h
    cases h
  · rw [bind_of_ok hbytes] at h
    refine ⟨bytes, ask_ok hbytes, ?_⟩
    rcases hbuild : build bytes path with fault | m'
    · rw [hbuild] at h
      cases fault <;> cases h
    · rw [hbuild] at h
      cases h
      rfl

/-- Building a model stops where the bytes are refused, or where a text cannot be written. -/
theorem buildModel_error {s : Session σ} {stop : Stop}
    (h : (buildModel r build id path s).1 = .error stop) :
    (∃ refusal, (r.readBlob id path s.world).1 = .error refusal ∧ stop = stopOf refusal) ∨
      ∃ bytes fault, build bytes path = .error fault ∧ stop = .model fault ∧
        ∀ f, fault ≠ .parse f := by
  unfold buildModel at h
  rcases hbytes : (ask (r.readBlob id path) s).1 with e | bytes
  · rw [bind_of_error hbytes] at h
    cases h
    exact .inl (ask_error hbytes)
  · rw [bind_of_ok hbytes] at h
    rcases hbuild : build bytes path with fault | m
    · rw [hbuild] at h
      refine .inr ⟨bytes, fault, hbuild, ?_⟩
      cases fault with
      | parse f => cases h
      | backslash | hugeInteger =>
        cases h
        exact ⟨rfl, nofun⟩
    · rw [hbuild] at h
      cases h

/-- What building a model gives does not depend on when it is done. -/
theorem buildModel_same (hr : r.Steady) (s s' : Session σ) :
    (buildModel r build id path s).1 = (buildModel r build id path s').1 := by
  have hsame : (ask (r.readBlob id path) s).1 = (ask (r.readBlob id path) s').1 :=
    congrArg (Except.mapError stopOf) (hr.readBlob id path s.world s'.world)
  unfold buildModel
  rcases hbytes : (ask (r.readBlob id path) s).1 with stop | bytes
  · rw [bind_of_error hbytes, bind_of_error (hsame.symm.trans hbytes)]
  · rw [bind_of_ok hbytes, bind_of_ok (hsame.symm.trans hbytes)]
    rcases build bytes path with fault | m
    · cases fault <;> rfl
    · rfl

variable {s : Session σ}

/-- An entry is taken from the cache. -/
theorem modelOf_hit {m : CachedModel} (hentry : s.cache.get? (id, path) = some m) :
    modelOf r build id path s
      = (.ok m, { s with cache := { s.cache with hits := s.cache.hits + 1 } }) := by
  have hhit : request (id, path) s
      = (.ok (.hit m), { s with cache := { s.cache with hits := s.cache.hits + 1 } }) := by
    rw [request, Cache.request, hentry]
  rw [modelOf, bind_apply, hhit]
  rfl

/-- A model that is being built already is never finished. -/
theorem modelOf_wait (hentry : s.cache.get? (id, path) = none)
    (hflight : s.cache.inFlight.contains (id, path) = true) :
    modelOf r build id path s = (.error .stalled, s) := by
  have hwait : request (id, path) s = (.ok .wait, s) := by
    rw [request, Cache.request, hentry]
    dsimp only
    rw [if_pos hflight]
  rw [modelOf, bind_apply, hwait]
  rfl

/-- A model without an entry that is not being built is built here, and entered if that succeeds. -/
theorem modelOf_miss (hentry : s.cache.get? (id, path) = none)
    (hflight : s.cache.inFlight.contains (id, path) = false) :
    modelOf r build id path s
      = match buildModel r build id path { s with cache := { s.cache with
          inFlight := (id, path) :: s.cache.inFlight, misses := s.cache.misses + 1 } } with
        | (.ok m, s₁) => (.ok m, { s₁ with cache := s₁.cache.settle (id, path) m })
        | (.error stop, s₁) => (.error stop, { s₁ with cache := s₁.cache.abandon (id, path) }) := by
  have hfirst : request (id, path) s = (.ok .build, { s with cache := { s.cache with
      inFlight := (id, path) :: s.cache.inFlight, misses := s.cache.misses + 1 } }) := by
    rw [request, Cache.request, hentry]
    dsimp only
    rw [if_neg (Bool.eq_false_iff.mp hflight)]
  rw [modelOf, bind_apply, hfirst]
  dsimp only
  rw [bind_apply, tryCatch_apply]
  rcases buildModel r build id path { s with cache := { s.cache with
    inFlight := (id, path) :: s.cache.inFlight, misses := s.cache.misses + 1 } } with
    ⟨stop | m, s₁⟩ <;> rfl

end SessionM

namespace Walker
open Walk
variable {w : Walker σ α} {c c' : Cache} {id path : String} {s : Session σ}

theorem remembers_empty : w.Remembers {} := ⟨rfl, fun _ _ _ h => nomatch h⟩

theorem Remembers.of_same (h : w.Remembers c) (hentries : c'.entries = c.entries)
    (hidle : c'.inFlight = []) : w.Remembers c' := by
  refine ⟨hidle, fun id path m hm => h.entries id path m ?_⟩
  rwa [Cache.get?, hentries] at hm

/-- Looking up a model keeps the cache right, whether or not the repository changes. -/
theorem remembers_modelOf (hs : w.Remembers s.cache) :
    w.Remembers (SessionM.modelOf w.repository w.build id path s).2.cache := by
  cases hentry : s.cache.get? (id, path) with
  | some m =>
    rw [SessionM.modelOf_hit hentry]
    exact hs.of_same rfl hs.idle
  | none =>
    rw [SessionM.modelOf_miss hentry (by rw [hs.idle]; rfl), hs.idle]
    let s₀ : Session σ := { s with cache :=
      { s.cache with inFlight := [(id, path)], misses := s.cache.misses + 1 } }
    obtain ⟨hentries, hflight⟩ :
        (SessionM.buildModel w.repository w.build id path s₀).2.cache.entries = s.cache.entries ∧
          (SessionM.buildModel w.repository w.build id path s₀).2.cache.inFlight = [(id, path)] :=
      SessionM.buildModel_cache s₀
    have hended : [(id, path)].filter (· != (id, path)) = [] :=
      List.filter_eq_nil_iff.mpr fun key hkey => by simp [List.mem_singleton.mp hkey]
    rcases hbuilt : SessionM.buildModel w.repository w.build id path s₀ with ⟨stop | m, s₁⟩ <;>
      rw [hbuilt] at hentries hflight
    · exact hs.of_same hentries ((congrArg (List.filter _) hflight).trans hended)
    · refine ⟨(congrArg (List.filter _) hflight).trans hended, fun id' path' m' hm' => ?_⟩
      change List.lookup (id', path') (((id, path), m) :: s₁.cache.entries) = some m' at hm'
      rw [hentries, List.lookup_cons] at hm'
      split at hm'
      · rename_i hkey
        obtain ⟨rfl, rfl⟩ := Prod.mk.inj (eq_of_beq hkey)
        cases hm'
        exact ⟨s₀, congrArg Prod.fst hbuilt⟩
      · exact hs.entries id' path' m' hm'

/-- What looking up a model gives is what building gives at some time. -/
theorem modelOf_outcome (hs : w.Remembers s.cache) :
    ∃ s', (SessionM.modelOf w.repository w.build id path s).1
      = (SessionM.buildModel w.repository w.build id path s').1 := by
  cases hentry : s.cache.get? (id, path) with
  | some m =>
    obtain ⟨s', hbuilt⟩ := hs.entries id path m hentry
    rw [SessionM.modelOf_hit hentry]
    exact ⟨s', hbuilt.symm⟩
  | none =>
    rw [SessionM.modelOf_miss hentry (by rw [hs.idle]; rfl)]
    refine ⟨{ s with cache := { s.cache with
      inFlight := (id, path) :: s.cache.inFlight, misses := s.cache.misses + 1 } }, ?_⟩
    split <;> rename_i hbuilt <;> exact (congrArg Prod.fst hbuilt).symm

/-- The cache gives what building gives, and remembers it. -/
theorem modelOf_remembers (hr : w.repository.Steady) (hs : w.Remembers s.cache) :
    (SessionM.modelOf w.repository w.build id path s).1
        = (SessionM.buildModel w.repository w.build id path s).1 ∧
      w.Remembers (SessionM.modelOf w.repository w.build id path s).2.cache := by
  obtain ⟨s', hs'⟩ :=
    (modelOf_outcome hs : ∃ s', (SessionM.modelOf w.repository w.build id path s).1 = _)
  exact ⟨hs'.trans (SessionM.buildModel_same hr s' s), remembers_modelOf hs⟩

variable (w)

/-- Looking up a model counts whether there was an entry, once it has returned. -/
theorem modelOf_apply (id path : String) (s : WalkState σ α) : w.modelOf id path s
    = match SessionM.modelOf w.repository w.build id path s.session with
      | (.ok m, x) => (.ok m, ⟨x, s.run.onReport fun r =>
          if s.session.cache.contains (id, path) then { r with cacheHits := r.cacheHits + 1 }
          else { r with cacheMisses := r.cacheMisses + 1,
                        modelsBuilt := r.modelsBuilt + if m.parsed then 1 else 0 }⟩)
      | (.error stop, x) => (.error stop, ⟨x, s.run⟩) := by
  have hread : (inSession (SessionM.modelOf w.repository w.build id path) s : _ × WalkState σ α)
      = ((SessionM.modelOf w.repository w.build id path s.session).1,
        { s with session := (SessionM.modelOf w.repository w.build id path s.session).2 }) := rfl
  rw [modelOf, bind_apply, get_apply]
  dsimp only
  rw [bind_apply, hread]
  rcases SessionM.modelOf w.repository w.build id path s.session with ⟨_ | m, x⟩
  · rfl
  · cases s.session.cache.contains (id, path) <;> cases m <;> rfl

/-- Counting how the cache was used leaves the outcome and the session alone. -/
theorem modelOf_session (id path : String) (s : WalkState σ α) :
    (w.modelOf id path s).1 = (SessionM.modelOf w.repository w.build id path s.session).1 ∧
      (w.modelOf id path s).2.session
        = (SessionM.modelOf w.repository w.build id path s.session).2 := by
  rw [modelOf_apply]
  rcases SessionM.modelOf w.repository w.build id path s.session with ⟨_ | m, x⟩ <;>
    exact ⟨rfl, rfl⟩

theorem steady_modelOf (hr : w.repository.Steady) (id path : String) :
    Steady w.Remembers (w.modelOf id path) (w.Builds id path) := by
  constructor
  · intro s s' hs hs'
    rw [(w.modelOf_session id path s).1, (w.modelOf_session id path s').1,
      (modelOf_remembers hr hs).1, (modelOf_remembers hr hs').1]
    exact SessionM.buildModel_same hr _ _
  · intro s hs
    rw [(w.modelOf_session id path s).2]
    exact (modelOf_remembers hr hs).2
  · intro s m hs hm
    rw [(w.modelOf_session id path s).1, (modelOf_remembers hr hs).1] at hm
    exact ⟨_, hm⟩

/-- Previous versions of a file do not depend on when they are asked for. -/
theorem steady_parentVersions (hr : w.repository.Steady) (id path : String) :
    Steady w.Remembers
      (inSession (parentVersions w.repository id path) : Walk σ α (List ParentVersion))
      fun _ => True := by
  refine ⟨fun s s' _ _ => ?_, fun s hs => ?_, fun _ _ _ _ => trivial⟩
  · show (parentVersions w.repository id path s.session).1
      = (parentVersions w.repository id path s'.session).1
    rw [parentVersions_answer, parentVersions_answer,
      hr.parentsTouching id path s.session.world s'.session.world]
  · show w.Remembers (parentVersions w.repository id path s.session).2.cache
    rwa [parentVersions_cache]

variable [Score α]

theorem steady_matchIn (hr : w.repository.Steady) (origin : Active) (commit : Commit)
    (path : String) : Steady w.Remembers (w.matchIn origin commit path) fun r =>
      ∀ m, r = .found m → m.Built w := by
  refine steady_bind (w.steady_modelOf hr commit.id path) fun cached hbuilt => ?_
  cases cached with
  | unparseable => exact steady_pure fun _ h => nomatch h
  | model earlier =>
    dsimp only
    split
    · refine steady_bind (steady_onRun _) fun _ _ => steady_pure ?_
      rintro m ⟨⟩
      exact hbuilt
    · exact steady_bind (steady_tell _ _ _) fun _ _ => steady_pure fun _ h => nomatch h
    · exact steady_pure fun _ h => nomatch h

theorem steady_searchFiles (hr : w.repository.Steady) (origin : Active) (parent : Commit)
    (paths : List String) {best : Option (Match α)} (hbest : ∀ m, best = some m → m.Built w) :
    Steady w.Remembers (w.searchFiles origin parent paths best) fun r =>
      ∀ m, r = some m → m.Built w := by
  induction paths generalizing best with
  | nil => exact steady_pure hbest
  | cons path rest ih =>
    refine steady_bind (steady_attempt (w.steady_modelOf hr parent.id path)) fun answer hbuilt => ?_
    split
    · exact steady_bind (steady_tell _ _ _) fun _ _ => ih hbest
    · exact ih hbest
    · rename_i earlier
      split
      · exact ih hbest
      · refine ih fun m hm => ?_
        have hnew : w.Builds parent.id path (.model earlier) := hbuilt _ rfl
        unfold better at hm
        split at hm
        · cases hm
          exact hnew
        · split at hm
          · cases hm
            exact hnew
          · exact hbest m hm

theorem steady_findMoved (hr : w.repository.Steady) (origin : Active) (parentId : String) :
    Steady w.Remembers (w.findMoved origin parentId) fun r => ∀ m, r = some m → m.Built w := by
  refine steady_bind (steady_attempt (steady_ask (hr.changedPaths _ _))) fun answer _ => ?_
  split
  · exact steady_bind (steady_tell _ _ _) fun _ _ => steady_pure fun _ h => nomatch h
  · dsimp only
    split
    · exact steady_pure fun _ h => nomatch h
    · refine steady_bind (steady_attempt (steady_ask (hr.resolve _))) fun answer _ => ?_
      split
      · exact steady_bind (steady_tell _ _ _) fun _ _ => steady_pure fun _ h => nomatch h
      · refine steady_bind (w.steady_searchFiles hr _ _ _ fun _ h => nomatch h) fun best hbest => ?_
        split
        · exact steady_bind (steady_tell _ _ _) fun _ _ => steady_pure hbest
        · exact steady_pure hbest

theorem steady_followMove (hr : w.repository.Steady) (origin : Active) (parentId : String) :
    Steady w.Remembers (w.followMove origin parentId) fun r => ∀ m, r = some m → m.Built w := by
  unfold followMove
  split
  · exact w.steady_findMoved hr origin parentId
  · exact steady_pure fun _ h => nomatch h

theorem steady_examine (hr : w.repository.Steady) (origin : Active) (v : ParentVersion) :
    Steady w.Remembers (w.examine origin v) fun x => ∀ m, x = .found m → m.Built w := by
  refine steady_bind (steady_attempt (w.steady_matchIn hr _ _ _)) fun answer hanswer => ?_
  rcases answer with f | m | _ | _
  · exact steady_bind (steady_tell _ _ _) fun _ _ => steady_pure fun _ h => nomatch h
  · exact steady_pure fun _ h => Finding.found.inj h ▸ hanswer _ rfl m rfl
  · exact steady_bind (w.steady_followMove hr _ _) fun moved hmoved =>
      steady_pure fun m hm => hmoved m (Finding.ofMove_eq_found.mp hm)
  · exact steady_pure fun _ h => nomatch h

theorem steady_examineParent (hr : w.repository.Steady) (origin : Active) (parentId : String) :
    Steady w.Remembers (w.examineParent origin parentId) fun x => ∀ m, x = .found m → m.Built w :=
  steady_bind (w.steady_followMove hr _ _) fun _ hmoved =>
    steady_pure fun m hm => hmoved m (Finding.ofMove_eq_found.mp hm)

/-! ### What turns find -/

variable {w}

omit [Score α] in
/-- Looking into places and recording what is found gives what looking gives in each of them. -/
theorem findings_gives {ι : Type} {origin : Active} {look : ι → Walk σ α (Finding α)}
    {P : ι → Finding α → Prop} (hlook : ∀ i, Steady w.Remembers (look i) (P i)) {is : List ι}
    {s s' : WalkState σ α} {rs : List Resolution} (hs : w.Remembers s.session.cache)
    (h : (is.mapM fun i => look i >>= w.record origin) s = (.ok rs, s')) :
    List.Forall₂ (fun i x => Gives (look i) x) is (w.findings origin look is s) ∧
      w.Remembers s'.session.cache := by
  induction is generalizing s rs with
  | nil =>
    rw [List.mapM_nil] at h
    obtain ⟨-, rfl⟩ := pure_ok h
    exact ⟨.nil, hs⟩
  | cons i is ih =>
    obtain ⟨x, s₁, r, s₂, _, hx, hrec, htail, -⟩ := w.visit_cons_ok h
    obtain ⟨s₂', hrec', -, hcache⟩ := w.record_apply origin x s₁
    obtain ⟨-, rfl⟩ := Prod.mk.inj (hrec'.symm.trans hrec)
    have hs₁ : w.Remembers s₁.session.cache := by
      have := (hlook i).keeps s hs
      rwa [hx] at this
    obtain ⟨hrest, hend⟩ := ih (hcache ▸ hs₁) htail
    refine ⟨?_, hend⟩
    rw [w.findings_cons is hx hrec']
    exact .cons (((hlook i).gives_iff remembers_empty hs).mpr (congrArg Prod.fst hx)) hrest

variable (w) in
/-- The previous versions of a file. -/
def previous (id path : String) : Walk σ α (List ParentVersion) :=
  inSession (parentVersions w.repository id path)

variable (w) in
/-- The turn of a branch finds what looking gives in all places that are to be looked into, unless
the budget is used up. -/
inductive Finds : Branch → Turn α → Prop
  | cut {a : Active} {s : WalkState σ α} (hbudget : w.outOfBudget s = true) : Finds (.active a) .cut
  | ended (t : Termination) : Finds (.terminated t) (.ended t)
  | lost {a : Active} (f : RepositoryFault)
      (hasked : ∀ vs, ¬ Gives (w.previous a.commit.id a.path) vs) : Finds (.active a) (.lost a f)
  | fresh {a : Active} {xs : List (Finding α)} (hasked : Gives (w.previous a.commit.id a.path) [])
      (hfound : List.Forall₂ (fun p x => Gives (w.examineParent a p) x) a.commit.parentIds xs) :
      Finds (.active a) (.fresh a xs)
  | followed {a : Active} {v : ParentVersion} {xs : List (Finding α)}
      (hasked : Gives (w.previous a.commit.id a.path) [v])
      (hfound : List.Forall₂ (fun v x => Gives (w.examine a v) x) [v] xs) :
      Finds (.active a) (.followed a xs)
  | postponed {a : Active} {vs : List ParentVersion}
      (hasked : Gives (w.previous a.commit.id a.path) vs) (hsome : vs ≠ []) :
      Finds (.active a) (.postponed a vs)
  | resolved {a : Active} {vs : List ParentVersion} {xs : List (Finding α)}
      (hfound : List.Forall₂ (fun v x => Gives (w.examine a v) x) vs xs) :
      Finds (.branching a vs) (.resolved a xs)

omit [Score α] in
theorem askParents_gives (hr : w.repository.Steady) {a : Active} {s s₁ : WalkState σ α}
    {answer : Except RepositoryFault (List ParentVersion)} (hs : w.Remembers s.session.cache)
    (h : w.askParents a s = (.ok answer, s₁)) :
    (∀ vs, answer = .ok vs ↔ Gives (w.previous a.commit.id a.path) vs) ∧
      w.Remembers s₁.session.cache := by
  unfold askParents at h
  rw [bind_apply, onRun_apply] at h
  dsimp only at h
  rw [bind_apply, onRun_apply] at h
  dsimp only at h
  let s₀ : WalkState σ α := { s with run := (s.run.onReport fun r =>
    { r with commitsAnalysed := r.commitsAnalysed + 1 }).onReport fun r =>
    { r with walkerCalls := r.walkerCalls + 1 } }
  have hsteady := w.steady_parentVersions hr a.commit.id a.path
  have hs₀ : w.Remembers s₀.session.cache := hs
  change attempt (w.previous a.commit.id a.path) s₀ = (.ok answer, s₁) at h
  refine ⟨fun vs => ?_, ?_⟩
  · rw [previous, hsteady.gives_iff remembers_empty hs₀, ← attempt_eq_ok]
    change _ ↔ (attempt (w.previous a.commit.id a.path) s₀).1 = _
    rw [h]
    exact ⟨congrArg Except.ok, Except.ok.inj⟩
  · have hkeeps := (steady_attempt hsteady).keeps s₀ hs₀
    change w.Remembers (attempt (w.previous a.commit.id a.path) s₀).2.session.cache at hkeeps
    rwa [h] at hkeeps

theorem resolve_gives (hr : w.repository.Steady) {a : Active} {vs : List ParentVersion}
    {s s' : WalkState σ α} {bs : List Branch} (hs : w.Remembers s.session.cache)
    (h : w.resolve a vs s = (.ok bs, s')) :
    List.Forall₂ (fun v x => Gives (w.examine a v) x) vs (w.findings a (w.examine a) vs s) ∧
      w.Remembers s'.session.cache := by
  unfold resolve at h
  rw [funext (w.resolveVersion_eq a)] at h
  obtain ⟨rs, s₁, hrs, h⟩ := bind_ok h
  obtain ⟨-, rfl⟩ := pure_ok h
  exact findings_gives (w.steady_examine hr a) hs hrs

theorem moves_gives (hr : w.repository.Steady) {a : Active} {s s' : WalkState σ α}
    {bss : List (List Branch)} (hs : w.Remembers s.session.cache)
    (h : (a.commit.parentIds.mapM (w.movesFrom a)) s = (.ok bss, s')) :
    List.Forall₂ (fun p x => Gives (w.examineParent a p) x) a.commit.parentIds
        (w.findings a (w.examineParent a) a.commit.parentIds s) ∧
      w.Remembers s'.session.cache := by
  rw [funext (w.movesFrom_eq a), mapM_map_outcome] at h
  obtain ⟨rs, hrs, -⟩ := map_ok h
  exact findings_gives (w.steady_examineParent hr a) hs hrs

theorem finds_of_advance (hr : w.repository.Steady) {a : Active} {bs : List Branch}
    {s s' : WalkState σ α} (hs : w.Remembers s.session.cache) (hbudget : w.outOfBudget s = false)
    (h : w.advance a s = (.ok bs, s')) :
    w.Finds (.active a) (w.turn (.active a) s) ∧ w.Remembers s'.session.cache := by
  obtain ⟨s₂, hexpands, rfl⟩ := w.expands_of_advance h
  rw [turn, if_neg (Bool.eq_false_iff.mp hbudget)]
  cases hexpands with
  | @lost f _ _ asked told =>
    obtain ⟨hanswer, hs₁⟩ := askParents_gives hr hs asked
    rw [asked]
    cases told
    refine ⟨.lost f fun vs hvs => ?_, hs₁⟩
    cases (hanswer vs).mpr hvs
  | fresh asked moves =>
    obtain ⟨hanswer, hs₁⟩ := askParents_gives hr hs asked
    obtain ⟨hfound, hs₂⟩ := moves_gives hr hs₁ moves
    rw [asked]
    exact ⟨.fresh ((hanswer _).mp rfl) hfound, hs₂⟩
  | followed asked resolved =>
    obtain ⟨hanswer, hs₁⟩ := askParents_gives hr hs asked
    obtain ⟨hfound, hs₂⟩ := resolve_gives hr hs₁ resolved
    rw [asked]
    exact ⟨.followed ((hanswer _).mp rfl) hfound, hs₂⟩
  | postponed asked told =>
    obtain ⟨hanswer, hs₁⟩ := askParents_gives hr hs asked
    rw [asked]
    cases told
    exact ⟨.postponed ((hanswer _).mp rfl) (List.cons_ne_nil _ _), hs₁⟩

/-- **The turn of a step finds what there is to find**: unless the budget is used up, what looking
gives in each place that the repository names. -/
theorem finds_of_step (hr : w.repository.Steady) {first : Branch} {rest work : List Branch}
    {s s' : WalkState σ α} (hs : w.Remembers s.session.cache)
    (h : w.step first rest s = (.ok work, s')) :
    w.Finds first (w.turn first s) ∧ w.Remembers s'.session.cache := by
  cases w.stepped_of_step h with
  | @ended t _ ended =>
    obtain ⟨s₂, hend, -, hcache⟩ := terminate_apply t s
    obtain ⟨-, rfl⟩ := Prod.mk.inj (hend.symm.trans ended)
    exact ⟨.ended t, hcache ▸ hs⟩
  | resolved resolved =>
    obtain ⟨hfound, hs₁⟩ := resolve_gives hr hs resolved
    exact ⟨.resolved hfound, hs₁⟩
  | @cut a _ used stopped =>
    obtain ⟨s₂, hstop, -, hcache⟩ := stopAll_apply a rest s
    obtain ⟨-, rfl⟩ := Prod.mk.inj (hstop.symm.trans stopped)
    rw [turn, if_pos used]
    exact ⟨.cut used, hcache ▸ hs⟩
  | expanded left advanced => exact finds_of_advance hr hs left advanced

/-- A walk keeps its cache right. -/
theorem Walked.remembers (hr : w.repository.Steady) {seed : Active} {x : Session σ}
    {log : List (Turn α)} {s : WalkState σ α} {work : List Branch} (hx : w.Remembers x.cache)
    (h : w.Walked seed x log s work) :
    w.Remembers s.session.cache := by
  induction h with
  | start => exact hx
  | step _ hstep ih => exact (finds_of_step hr ih hstep).2

end Walker
end Lineage
