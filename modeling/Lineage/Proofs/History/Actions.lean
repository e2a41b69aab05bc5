import Lineage.History.Walk
import Lineage.Proofs.Matching.Chosen

/-! # Actions of a walk, and what reading leaves alone

An action of a walk is a function of the state of the walk; `bind_ok` takes a
sequence of actions apart at an outcome that it has reached.

Most actions only read: they ask the repository, use the cache, tell events and
count.  What they leave alone is the *graph* of the run: its versions, changes,
ends of branches, and the list of versions that were expanded.  `Reads` says so of
an action, whatever its outcome is, and is closed under sequencing; so it holds of
looking into an earlier version of a file (`reads_matchIn`) and of looking for an
element in another file (`reads_followMove`).  `Yields` says what the outcomes of an
action have in common: what is matched is an element of the commit that was looked
into, or of one that an identifier was resolved to, and has the kind of the element
that it was looked for (`yields_matchIn`, `yields_followMove`).
-/
namespace Lineage

/-! ### Answers -/

namespace Repository
variable {σ : Type}

/-- An identifier can be answered by a commit. -/
def Resolves (r : Repository σ) (id : String) (c : Commit) : Prop := ∃ s, (r.resolve id s).1 = .ok c

/-- The versions of a file before a commit can be answered with a version among them. -/
def Touches (r : Repository σ) (id path : String) (v : ParentVersion) : Prop :=
  ∃ s vs, (r.parentsTouching id path s).1 = .ok vs ∧ v ∈ vs

end Repository

/-- The score of a match has been moved into the unit interval and reaches the threshold, and its
label is that of a change. -/
structure Match.Rated {α : Type} [Score α] (c : MatchingConfig α) (m : Match α) : Prop where
  reaches : Score.le c.threshold m.score = true
  clamped : ∃ a, m.score = Score.clamp a
  kind : m.kind ≠ .introduced ∧ m.kind ≠ .removed

/-- A match of a version at a commit: an element of the model there, of the kind of the version,
that was chosen among candidates. -/
structure Match.At {α : Type} [Score α] (c : MatchingConfig α) (m : Match α) (origin : Active)
    (commit : Commit) : Prop where
  commit : m.commit = commit
  element : m.element ∈ m.model.elements.toList
  kind : m.element.kind = origin.element.kind
  rated : m.Rated c

/-- What was chosen among the elements of an earlier model is a match. -/
theorem Lookup.Chooses.at {α : Type} [Score α] {c : MatchingConfig α} {origin : Active}
    {earlier : Model} {s : Scored α} {kind : ChangeKind}
    (h : (Lookup.mk origin.element origin.model earlier).Chooses c s kind)
    (commit : Commit) (path : String) :
    Match.At c ⟨commit, path, earlier, s.element, kind, s.score⟩ origin commit where
  commit := rfl
  element := h.mem_elements
  kind := h.kind_eq
  rated :=
    { reaches := h.reaches
      clamped := ⟨_, congrArg Scored.score h.score_eq⟩
      kind := by
        rw [h.label_eq]
        exact Lookup.labelChange_ne _ _ _ }

/-- The part of a run that reading leaves alone: the counters of questions and of
the cache are left out. -/
def Run.graph {α : Type} (r : Run α) : Run α :=
  r.onReport fun p => { commitsAnalysed := p.commitsAnalysed, processing := p.processing }

namespace Walk
variable {σ α β γ τ : Type}

/-! ### Running actions -/

/-- What comes after an action is done with its outcome, in the state that it leaves.  This holds
of sessions as of walks. -/
theorem bind_apply (x : ExceptT Stop (StateM τ) β) (f : β → ExceptT Stop (StateM τ) γ) (s : τ) :
    (x >>= f) s = match x s with
      | (.ok b, s') => f b s'
      | (.error e, s') => (.error e, s') := by
  show (match x s with | (a, s') => ExceptT.bindCont f a s') = _
  rcases x s with ⟨_ | b, s'⟩ <;> rfl

theorem bind_of_ok {x : ExceptT Stop (StateM τ) β} {f : β → ExceptT Stop (StateM τ) γ} {s : τ}
    {b : β} (h : (x s).1 = .ok b) : (x >>= f) s = f b (x s).2 := by
  rw [bind_apply, show x s = (.ok b, (x s).2) from Prod.ext h rfl]

theorem bind_of_error {x : ExceptT Stop (StateM τ) β} {f : β → ExceptT Stop (StateM τ) γ} {s : τ}
    {e : Stop} (h : (x s).1 = .error e) : (x >>= f) s = (.error e, (x s).2) := by
  rw [bind_apply, show x s = (.error e, (x s).2) from Prod.ext h rfl]

theorem pure_apply (b : β) (s : WalkState σ α) : (pure b : Walk σ α β) s = (.ok b, s) := rfl

theorem get_apply (s : WalkState σ α) : (get : Walk σ α (WalkState σ α)) s = (.ok s, s) := rfl

theorem onRun_apply (f : Run α → Run α) (s : WalkState σ α) :
    (onRun f : Walk σ α Unit) s = (.ok (), { s with run := f s.run }) := rfl

/-- A sequence that has an outcome had one after its first action. -/
theorem bind_ok {x : Walk σ α β} {f : β → Walk σ α γ} {s s' : WalkState σ α} {c : γ}
    (h : (x >>= f) s = (.ok c, s')) : ∃ b s₁, x s = (.ok b, s₁) ∧ f b s₁ = (.ok c, s') := by
  rw [bind_apply] at h
  rcases hx : x s with ⟨_ | b, s₁⟩
  · rw [hx] at h
    cases h
  · rw [hx] at h
    exact ⟨b, s₁, rfl, h⟩

theorem pure_ok {b c : β} {s s' : WalkState σ α} (h : (pure b : Walk σ α β) s = (.ok c, s')) :
    c = b ∧ s' = s := by
  rw [pure_apply] at h
  cases h
  exact ⟨rfl, rfl⟩

theorem map_ok {f : β → γ} {x : Walk σ α β} {s s' : WalkState σ α} {c : γ}
    (h : (f <$> x) s = (.ok c, s')) : ∃ b, x s = (.ok b, s') ∧ c = f b := by
  rw [← bind_pure_comp] at h
  obtain ⟨b, s₁, hx, hb⟩ := bind_ok h
  obtain ⟨rfl, rfl⟩ := pure_ok hb
  exact ⟨b, hx, rfl⟩

/-- Mapping the outcomes of a list of actions one by one or all at once. -/
theorem mapM_map_outcome {ι : Type} (f : β → γ) (x : ι → Walk σ α β) (is : List ι) :
    (is.mapM fun i => f <$> x i) = List.map f <$> is.mapM x := by
  induction is with
  | nil => simp only [List.mapM_nil, map_pure, List.map_nil]
  | cons i is ih => simp only [List.mapM_cons, ih, map_bind, bind_map_left, map_pure, List.map_cons]

/-! ### Reading -/

/-- The action leaves the graph of the run alone, whatever its outcome is. -/
def Reads (x : Walk σ α β) : Prop := ∀ s, (x s).2.run.graph = s.run.graph

theorem Reads.of_eq {x : Walk σ α β} (hx : Reads x) {s s' : WalkState σ α}
    {r : Except Stop β} (h : x s = (r, s')) : s'.run.graph = s.run.graph := by
  have := hx s
  rwa [h] at this

theorem reads_pure (b : β) : Reads (pure b : Walk σ α β) := fun _ => rfl

theorem reads_get : Reads (get : Walk σ α (WalkState σ α)) := fun _ => rfl

theorem reads_bind {x : Walk σ α β} {f : β → Walk σ α γ} (hx : Reads x) (hf : ∀ b, Reads (f b)) :
    Reads (x >>= f) := by
  intro s
  have h := hx s
  rw [bind_apply]
  revert h
  rcases x s with ⟨_ | b, s₁⟩
  · exact id
  · exact fun h => (hf b s₁).trans h

theorem reads_inSession (x : SessionM σ β) : Reads (inSession x : Walk σ α β) := fun _ => rfl

theorem reads_tell (level : Level) (name : String) (fields : List (String × Json)) :
    Reads (tell level name fields : Walk σ α Unit) := reads_inSession _

/-- Counting leaves the graph alone, as long as it is not expansions that are counted. -/
theorem reads_onReport {f : Report → Report}
    (hf : ∀ r, (f r).commitsAnalysed = r.commitsAnalysed ∧ (f r).processing = r.processing) :
    Reads (onRun (Run.onReport f) : Walk σ α Unit) := by
  intro s
  obtain ⟨hcount, hlist⟩ := hf s.run.report
  simp only [onRun_apply, Run.graph, Run.onReport, hcount, hlist]

theorem reads_attempt {x : Walk σ α β} (hx : Reads x) : Reads (attempt x) := by
  intro s
  have h := hx s
  unfold attempt
  revert h
  rcases x s with ⟨e | b, s₁⟩
  · cases e <;> exact id
  · exact id

/-! ### Outcomes -/

/-- Every outcome of the action has a property. -/
def Yields (x : Walk σ α β) (P : β → Prop) : Prop := ∀ s b s', x s = (.ok b, s') → P b

theorem yields_pure {P : β → Prop} {b : β} (h : P b) : Yields (pure b : Walk σ α β) P := by
  intro s b' s' hb
  obtain ⟨rfl, -⟩ := pure_ok hb
  exact h

theorem yields_bind {x : Walk σ α β} {f : β → Walk σ α γ} {P : β → Prop} {Q : γ → Prop}
    (hx : Yields x P) (hf : ∀ b, P b → Yields (f b) Q) : Yields (x >>= f) Q := by
  intro s c s' h
  obtain ⟨b, s₁, hb, hc⟩ := bind_ok h
  exact hf b (hx s b s₁ hb) s₁ c s' hc

theorem yields_after {x : Walk σ α β} {f : β → Walk σ α γ} {Q : γ → Prop}
    (hf : ∀ b, Yields (f b) Q) : Yields (x >>= f) Q := by
  intro s c s' h
  obtain ⟨b, s₁, -, hc⟩ := bind_ok h
  exact hf b s₁ c s' hc

/-- What comes after an action matters for its outcomes only. -/
theorem Yields.bind_congr {x : Walk σ α β} {f g : β → Walk σ α γ} {P : β → Prop}
    (hx : Yields x P) (h : ∀ b, P b → f b = g b) : x >>= f = x >>= g := by
  funext s
  rcases houtcome : (x s).1 with stop | b
  · rw [bind_of_error houtcome, bind_of_error houtcome]
  · rw [bind_of_ok houtcome, bind_of_ok houtcome, h b (hx s b _ (Prod.ext houtcome rfl))]

/-- An outcome of an action that was tried is one of the action, or a fault. -/
theorem yields_attempt {x : Walk σ α β} {P : β → Prop} (hx : Yields x P) :
    Yields (attempt x) fun r => ∀ b, r = .ok b → P b := by
  rintro s r s' h b rfl
  unfold attempt at h
  rcases hs : x s with ⟨e | b', s₁⟩
  · rw [hs] at h
    cases e <;> cases h
  · rw [hs] at h
    cases h
    exact hx s b s' hs

theorem ask_ok {q : Asked σ β} {x : Session σ} {b : β} (h : (SessionM.ask q x).1 = .ok b) :
    (q x.world).1 = .ok b := by
  change (q x.world).1.mapError SessionM.stopOf = .ok b at h
  rcases hq : (q x.world).1 with refusal | b'
  · rw [hq] at h
    cases h
  · rw [hq] at h
    exact congrArg Except.ok (Except.ok.inj h)

/-- A question stops a walk as the repository refuses to answer. -/
theorem ask_error {q : Asked σ β} {x : Session σ} {stop : Stop}
    (h : (SessionM.ask q x).1 = .error stop) :
    ∃ refusal, (q x.world).1 = .error refusal ∧ stop = SessionM.stopOf refusal := by
  change (q x.world).1.mapError SessionM.stopOf = .error stop at h
  rcases hq : (q x.world).1 with refusal | b
  · rw [hq] at h
    exact ⟨refusal, rfl, (Except.error.inj h).symm⟩
  · rw [hq] at h
    cases h

theorem yields_ask (q : Asked σ β) :
    Yields (inSession (.ask q) : Walk σ α β) fun b => ∃ s, (q s).1 = .ok b := by
  intro s b s' h
  exact ⟨s.session.world, ask_ok (congrArg Prod.fst h)⟩

end Walk

namespace Walker
open Walk
variable {σ α : Type} (w : Walker σ α)

theorem reads_modelOf (id path : String) : Reads (w.modelOf id path) := by
  refine reads_bind reads_get fun s => reads_bind (reads_inSession _) fun m => ?_
  dsimp only
  split <;> exact reads_bind (reads_onReport fun r => ⟨rfl, rfl⟩) fun _ => reads_pure _

variable [Score α]

theorem reads_matchIn (origin : Active) (commit : Commit) (path : String) :
    Reads (w.matchIn origin commit path) := by
  refine reads_bind (w.reads_modelOf _ _) fun cached => ?_
  cases cached with
  | unparseable => exact reads_pure _
  | model earlier =>
    dsimp only
    split
    · exact reads_bind (reads_onReport fun r => ⟨rfl, rfl⟩) fun _ => reads_pure _
    · exact reads_bind (reads_tell _ _ _) fun _ => reads_pure _
    · exact reads_pure _

theorem reads_searchFiles (origin : Active) (parent : Commit) (paths : List String)
    (best : Option (Match α)) : Reads (w.searchFiles origin parent paths best) := by
  induction paths generalizing best with
  | nil => exact reads_pure _
  | cons path rest ih =>
    refine reads_bind (reads_attempt (w.reads_modelOf _ _)) fun answer => ?_
    split
    · exact reads_bind (reads_tell _ _ _) fun _ => ih _
    · exact ih _
    · split
      · exact ih _
      · exact ih _

theorem reads_findMoved (origin : Active) (parentId : String) :
    Reads (w.findMoved origin parentId) := by
  refine reads_bind (reads_attempt (reads_inSession _)) fun answer => ?_
  split
  · exact reads_bind (reads_tell _ _ _) fun _ => reads_pure _
  · dsimp only
    split
    · exact reads_pure _
    · refine reads_bind (reads_attempt (reads_inSession _)) fun answer => ?_
      split
      · exact reads_bind (reads_tell _ _ _) fun _ => reads_pure _
      · refine reads_bind (w.reads_searchFiles _ _ _ _) fun best => ?_
        split
        · exact reads_bind (reads_tell _ _ _) fun _ => reads_pure _
        · exact reads_pure _

theorem reads_followMove (origin : Active) (parentId : String) :
    Reads (w.followMove origin parentId) := by
  unfold followMove
  split
  · exact w.reads_findMoved origin parentId
  · exact reads_pure _

/-! ### What is matched -/

theorem yields_matchIn (origin : Active) (commit : Commit) (path : String) :
    Yields (w.matchIn origin commit path)
      fun r => ∀ m, r = .found m → m.At w.matching origin commit := by
  refine yields_after fun cached => ?_
  cases cached with
  | unparseable => exact yields_pure fun _ h => nomatch h
  | model earlier =>
    dsimp only
    split
    · rename_i hfound
      refine yields_after fun _ => yields_pure ?_
      rintro m ⟨⟩
      exact (Lookup.chooses_of_search hfound).at commit path
    · exact yields_after fun _ => yields_pure fun _ h => nomatch h
    · exact yields_pure fun _ h => nomatch h

theorem yields_searchFiles {origin : Active} (parent : Commit) (paths : List String)
    {best : Option (Match α)} (hbest : ∀ m, best = some m → m.At w.matching origin parent) :
    Yields (w.searchFiles origin parent paths best) fun r =>
      ∀ m, r = some m → m.At w.matching origin parent := by
  induction paths generalizing best with
  | nil => exact yields_pure hbest
  | cons path rest ih =>
    refine yields_after fun answer => ?_
    split
    · exact yields_after fun _ => ih hbest
    · exact ih hbest
    · split
      · exact ih hbest
      · rename_i hfound
        refine ih fun m hm => ?_
        have hnew := (Lookup.chooses_of_elsewhere? hfound).at parent path
        unfold better at hm
        split at hm
        · cases hm
          exact hnew
        · split at hm
          · cases hm
            exact hnew
          · exact hbest m hm

theorem yields_findMoved (origin : Active) (parentId : String) :
    Yields (w.findMoved origin parentId) fun r => ∀ m, r = some m →
      ∃ parent, w.repository.Resolves parentId parent ∧ m.At w.matching origin parent := by
  refine yields_after fun answer => ?_
  split
  · exact yields_after fun _ => yields_pure fun _ h => nomatch h
  · dsimp only
    split
    · exact yields_pure fun _ h => nomatch h
    · refine yields_bind (yields_attempt (yields_ask _)) fun answer hanswer => ?_
      split
      · exact yields_after fun _ => yields_pure fun _ h => nomatch h
      · rename_i parent
        have hresolved : w.repository.Resolves parentId parent := hanswer parent rfl
        refine yields_bind (w.yields_searchFiles _ _ fun _ h => nomatch h) fun best hbest => ?_
        have hall : ∀ m, best = some m →
            ∃ parent, w.repository.Resolves parentId parent ∧ m.At w.matching origin parent :=
          fun m hm => ⟨parent, hresolved, hbest m hm⟩
        split
        · exact yields_after fun _ => yields_pure hall
        · exact yields_pure hall

theorem yields_followMove (origin : Active) (parentId : String) :
    Yields (w.followMove origin parentId) fun r => ∀ m, r = some m →
      ∃ parent, w.repository.Resolves parentId parent ∧ m.At w.matching origin parent := by
  unfold followMove
  split
  · exact w.yields_findMoved origin parentId
  · exact yields_pure fun _ h => nomatch h

end Walker
end Lineage
