import Lineage.Proofs.History.Actions

/-! # The turns of a walk

A step of a walk mixes reading and recording: it looks into one earlier version
after the other and extends the history as it goes.  Here the two are told apart.
A `Finding` is what looking into one place gives; recording a finding is a function
of the graph of the run (`Run.absorb`, `Run.resolve`), and so is everything else
that a step does to the history and to the work list.

A `Turn` says what one step was about and what was found in it.  `Walker.turn` is
the turn of a step as a function of the state in which it is taken, and `step_turn`
says that the graph and the work list after a step are those that its turn makes of
the ones before (`Run.after`).

What a step can do at all is said once, by `Walker.Stepped` for the branch that it takes
and by `Walker.Expands` for a version that it expands; proofs about what a step asks for
or finds go through these cases.
-/
namespace Lineage

/-- What looking for an earlier version in one place gives. -/
inductive Finding (α : Type) where
  | failed (t : Termination)
  | found (m : Match α)
  | absent

/-- What following a move gives. -/
def Finding.ofMove {α : Type} : Option (Match α) → Finding α
  | some m => .found m
  | none => .absent

/-- A finding fits the version that it was looked for: a failure ends a branch there
because something cannot be read or parsed, and a match is of the same kind. -/
def Finding.Fits {α : Type} (origin : Active) : Finding α → Prop
  | .failed t => t.node = origin.node ∧ (t.reason = .repositoryError ∨ t.reason = .unparseable)
  | .found m => m.element.kind = origin.element.kind
  | .absent => True

theorem Finding.fits_ofMove {α : Type} {origin : Active} {moved : Option (Match α)}
    (h : ∀ m, moved = some m → m.element.kind = origin.element.kind) :
    (Finding.ofMove moved).Fits origin := by
  cases moved with
  | none => trivial
  | some m => exact h m rfl

theorem Finding.ofMove_eq_found {α : Type} {moved : Option (Match α)} {m : Match α} :
    Finding.ofMove moved = .found m ↔ moved = some m := by
  cases moved with
  | none => exact iff_of_false (fun h => nomatch h) fun h => nomatch h
  | some m' => exact ⟨fun h => congrArg some (Finding.found.inj h), fun h => by cases h; rfl⟩

/-- What tells the version that a match found from others. -/
def Match.key {α : Type} (m : Match α) : VersionKey := ⟨m.commit.id, m.path, m.element.lines⟩

/-! ### Recording on the graph of a run -/

namespace Run
variable {α : Type} (r : Run α)

/-- The place of the version that a match found, if it is known. -/
def known? (m : Match α) : Option Nat := r.nodes.findIdx? fun n => n.key = m.key

/-- The place of the version that a match found once the match has been recorded. -/
def place (m : Match α) : Nat := (r.known? m).getD r.nodes.length

/-- The nodes after a match has been recorded. -/
def nodesWith (m : Match α) : List HistoryNode :=
  match r.known? m with
  | some _ => r.nodes
  | none => r.nodes ++ [r.newNode m.commit m.path m.element]

/-- The edge for a match from `origin`. -/
def edgeTo (origin : Active) (m : Match α) : ChangeEdge α :=
  ⟨origin.node, r.place m, m.kind, m.score, origin.commit.id⟩

/-- The edges after a match from `origin` has been recorded. -/
def edgesWith (origin : Active) (m : Match α) : List (ChangeEdge α) :=
  if r.edges.any fun f =>
    f.source = (r.edgeTo origin m).source ∧ f.target = (r.edgeTo origin m).target
  then r.edges else r.edges ++ [r.edgeTo origin m]

/-- The run after a match from `origin` has been recorded. -/
def link (origin : Active) (m : Match α) : Run α :=
  { r with nodes := r.nodesWith m, edges := r.edgesWith origin m }

/-- The branch that a match opens: none if its version is known. -/
def opened (m : Match α) : List Branch :=
  if (r.known? m).isSome then []
  else if m.kind = .extract && r.kind.stopsAtExtraction then
    [.terminated ⟨r.place m, .extracted, some m.commit.id, none⟩]
  else [.active ⟨r.place m, m.commit, m.path, m.model, m.element⟩]

/-- The run after a finding has been recorded. -/
def absorb (origin : Active) : Finding α → Run α
  | .found m => r.link origin m
  | .failed _ | .absent => r

/-- What a finding means for the branch of the version it was looked for. -/
def resolve : Finding α → Resolution
  | .failed t => .failed t
  | .found m => .matched (r.opened m)
  | .absent => .absent

/-- The run after findings have been recorded one after the other. -/
def absorbAll (r : Run α) (origin : Active) (fs : List (Finding α)) : Run α :=
  fs.foldl (fun r f => r.absorb origin f) r

/-- What findings mean that are recorded one after the other. -/
def resolveAll (origin : Active) : Run α → List (Finding α) → List Resolution
  | _, [] => []
  | r, f :: fs => r.resolve f :: resolveAll origin (r.absorb origin f) fs

/-- The run after an end of a branch has been recorded. -/
def finish (t : Termination) : Run α := if r.hasEnded t then r else r.terminate t

/-- The run after a version has been counted as expanded. -/
def expanded (a : Active) : Run α :=
  r.onReport fun p => { p with commitsAnalysed := p.commitsAnalysed + 1,
                               processing := p.processing ++ [(a.commit.id, a.path)] }

end Run

/-! ### Turns -/

/-- What a step is about: a branch that ends; the end of the budget; or a version
whose parents cannot be read (`lost`), do not have the file (`fresh`, with what
following moves from each parent gave), have it in one version (`followed`) or in
several ones (`postponed`, and `resolved` when their turn comes). -/
inductive Turn (α : Type) where
  | ended (t : Termination)
  | cut
  | lost (a : Active) (f : RepositoryFault)
  | fresh (a : Active) (fs : List (Finding α))
  | followed (a : Active) (fs : List (Finding α))
  | postponed (a : Active) (vs : List ParentVersion)
  | resolved (a : Active) (fs : List (Finding α))

/-- Branches, or an introduction where there are none. -/
def orIntroduced (a : Active) (bs : List Branch) : List Branch :=
  if bs.isEmpty then [.terminated ⟨a.node, .introduced, none, none⟩] else bs

/-- The graph and the work list after a turn. -/
def Run.after {α : Type} (r : Run α) (first : Branch) (rest : List Branch) :
    Turn α → Run α × List Branch
  | .ended t => (r.finish t, rest)
  | .cut =>
    ((first :: rest).foldl (fun r b => r.finish b.cut) { r with budgetExceeded := true }, [])
  | .lost a f => (r.expanded a,
      rest ++ [.terminated ⟨a.node, .repositoryError, some a.commit.id, some f.message⟩])
  | .fresh a fs => ((r.absorbAll a fs).expanded a,
      rest ++ orIntroduced a ((r.resolveAll a fs).flatMap Resolution.branches))
  | .followed a fs => ((r.absorbAll a fs).expanded a, rest ++ Walker.settle a (r.resolveAll a fs))
  | .postponed a vs => (r.expanded a, rest ++ [.branching a vs])
  | .resolved a fs => (r.absorbAll a fs, rest ++ Walker.settle a (r.resolveAll a fs))

namespace Run
variable {α : Type} (r : Run α) (f : Report → Report) (origin : Active) (m : Match α)

/-- Looking up the node of a match is `known?` and `place`. -/
theorem nodeFor_eq : r.nodeFor m.commit m.path m.element
    = (r.place m, (r.known? m).isNone, { r with nodes := r.nodesWith m }) := by
  unfold nodeFor place nodesWith
  show (match r.known? m with | some i => _ | none => _) = _
  cases r.known? m <;> rfl

theorem addEdge_edgeTo : ({ r with nodes := r.nodesWith m } : Run α).addEdge (r.edgeTo origin m)
    = r.link origin m := by
  unfold addEdge link edgesWith
  split <;> rfl

/-! ### The report does not matter -/

theorem opened_onReport : (r.onReport f).opened m = r.opened m := rfl

theorem link_onReport : (r.onReport f).link origin m = (r.link origin m).onReport f := rfl

theorem absorb_onReport (x : Finding α) :
    (r.onReport f).absorb origin x = (r.absorb origin x).onReport f := by
  cases x with
  | found m => exact r.link_onReport f origin m
  | failed t | absent => rfl

theorem resolve_onReport (x : Finding α) : (r.onReport f).resolve x = r.resolve x := by
  cases x with
  | found m => simp only [resolve, opened_onReport]
  | failed t | absent => rfl

theorem absorbAll_onReport (fs : List (Finding α)) :
    (r.onReport f).absorbAll origin fs = (r.absorbAll origin fs).onReport f := by
  induction fs generalizing r with
  | nil => rfl
  | cons x fs ih =>
    show ((r.onReport f).absorb origin x).absorbAll origin fs = _
    rw [absorb_onReport, ih]
    rfl

theorem resolveAll_onReport (fs : List (Finding α)) :
    (r.onReport f).resolveAll origin fs = r.resolveAll origin fs := by
  induction fs generalizing r with
  | nil => rfl
  | cons x fs ih => simp only [resolveAll, resolve_onReport, absorb_onReport, ih]

theorem finish_onReport (t : Termination) :
    (r.onReport f).finish t = (r.finish t).onReport f := by
  simp only [finish, show (r.onReport f).hasEnded t = r.hasEnded t from rfl]
  split <;> rfl

theorem foldl_finish_onReport (bs : List Branch) :
    bs.foldl (fun r b => r.finish b.cut) (r.onReport f)
      = (bs.foldl (fun r b => r.finish b.cut) r).onReport f := by
  induction bs generalizing r with
  | nil => rfl
  | cons b bs ih => rw [List.foldl_cons, List.foldl_cons, finish_onReport, ih]

/-- The graph after a version has been expanded, from the ones after its parents were
asked for and after its last finding. -/
theorem expanded_graph {r r₁ r₂ : Run α} {a : Active} {xs : List (Finding α)}
    (hasked : r₁.graph = r.graph.onReport fun p =>
      { p with commitsAnalysed := p.commitsAnalysed + 1 })
    (hfound : r₂.graph = r₁.graph.absorbAll a xs) :
    (r₂.onReport fun p => { p with processing := p.processing ++ [(a.commit.id, a.path)] }).graph
      = (r.graph.absorbAll a xs).expanded a := by
  rw [hasked, absorbAll_onReport] at hfound
  exact congrArg (onReport fun p =>
    { p with processing := p.processing ++ [(a.commit.id, a.path)] }) hfound

end Run

/-! ### Looking and recording -/

namespace Walk
variable {σ α : Type}

/-- Ending a branch changes the run as `Run.finish` says, and leaves the cache alone. -/
theorem terminate_apply (t : Termination) (s : WalkState σ α) :
    ∃ s', terminate t s = (.ok (), s') ∧ s'.run = s.run.finish t ∧
      s'.session.cache = s.session.cache := by
  unfold terminate Run.finish
  rw [bind_apply, get_apply]
  dsimp only
  by_cases h : s.run.hasEnded t = true
  · rw [if_pos h, if_pos h]
    exact ⟨s, rfl, rfl, rfl⟩
  · rw [if_neg h, if_neg h]
    exact ⟨_, rfl, rfl, rfl⟩

/-- Ending branches one after the other ends each of them. -/
theorem forM_cut_apply (bs : List Branch) (s : WalkState σ α) :
    ∃ s', bs.forM (fun b => terminate b.cut) s = (.ok (), s') ∧
      s'.run = bs.foldl (fun r b => r.finish b.cut) s.run ∧
      s'.session.cache = s.session.cache := by
  induction bs generalizing s with
  | nil => exact ⟨s, rfl, rfl, rfl⟩
  | cons b bs ih =>
    obtain ⟨s₁, h₁, hrun₁, hcache₁⟩ := terminate_apply b.cut s
    obtain ⟨s₂, h₂, hrun₂, hcache₂⟩ := ih s₁
    refine ⟨s₂, ?_, by rw [hrun₂, hrun₁]; rfl, hcache₂.trans hcache₁⟩
    show (terminate b.cut >>= fun _ => bs.forM fun b => terminate b.cut) s = _
    rw [bind_apply, h₁]
    exact h₂

/-- When the budget is used up, the branch at hand and all others are ended. -/
theorem stopAll_apply (a : Active) (rest : List Branch) (s : WalkState σ α) :
    ∃ s', stopAll a rest s = (.ok (), s') ∧
      s'.run = (Branch.active a :: rest).foldl (fun r b => r.finish b.cut)
        { s.run with budgetExceeded := true } ∧
      s'.session.cache = s.session.cache := by
  unfold stopAll
  rw [bind_apply, onRun_apply]
  dsimp only
  rw [bind_apply, get_apply]
  dsimp only
  exact forM_cut_apply (.active a :: rest) _

end Walk

namespace Walker
open Walk
variable {σ α : Type} (w : Walker σ α)

/-- Records what was found. -/
def record (origin : Active) : Finding α → Walk σ α Resolution
  | .failed t => return .failed t
  | .found m => return .matched (← w.extend origin m)
  | .absent => return .absent

/-- Extending the history changes the run as `Run.link` says and leaves what `Run.opened` says; the
cache stays as it is. -/
theorem extend_apply (origin : Active) (m : Match α) (s : WalkState σ α) :
    ∃ s', w.extend origin m s = (.ok (s.run.opened m), s') ∧ s'.run = s.run.link origin m ∧
      s'.session.cache = s.session.cache := by
  unfold extend Run.opened
  rw [bind_apply, get_apply]
  dsimp only
  rw [s.run.nodeFor_eq, bind_apply, onRun_apply]
  dsimp only
  rw [bind_apply, onRun_apply]
  dsimp only
  rw [bind_apply,
    show (⟨origin.node, s.run.place m, m.kind, m.score, origin.commit.id⟩ : ChangeEdge α)
      = s.run.edgeTo origin m from rfl, s.run.addEdge_edgeTo]
  cases s.run.known? m with
  | some i => exact ⟨_, rfl, rfl, rfl⟩
  | none =>
    simp only [Option.isNone_none, Option.isSome_none, Bool.not_true, Bool.false_eq_true, if_false]
    by_cases hx : (m.kind = .extract && s.run.kind.stopsAtExtraction) = true
    · rw [if_pos hx, if_pos hx]
      exact ⟨_, rfl, rfl, rfl⟩
    · rw [if_neg hx, if_neg hx]
      exact ⟨_, rfl, rfl, rfl⟩

theorem record_apply (origin : Active) (x : Finding α) (s : WalkState σ α) :
    ∃ s', w.record origin x s = (.ok (s.run.resolve x), s') ∧ s'.run = s.run.absorb origin x ∧
      s'.session.cache = s.session.cache := by
  cases x with
  | failed t => exact ⟨s, rfl, rfl, rfl⟩
  | absent => exact ⟨s, rfl, rfl, rfl⟩
  | found m =>
    obtain ⟨s', hs', hrun, hcache⟩ := w.extend_apply origin m s
    refine ⟨s', ?_, hrun, hcache⟩
    show (w.extend origin m >>= fun bs => pure (Resolution.matched bs)) s = _
    rw [bind_apply, hs']
    rfl

/-- What is found by looking into places one after the other, where what is found in one is
recorded before the next is looked into. -/
def findings (origin : Active) {ι : Type} (look : ι → Walk σ α (Finding α)) :
    List ι → WalkState σ α → List (Finding α)
  | [], _ => []
  | i :: is, s =>
    match look i s with
    | (.ok x, s₁) => x :: findings origin look is (w.record origin x s₁).2
    | (.error _, _) => []

theorem findings_cons {ι : Type} {origin : Active} {look : ι → Walk σ α (Finding α)} {i : ι}
    (is : List ι) {s s₁ s₂ : WalkState σ α} {x : Finding α} {r : Resolution}
    (hlook : look i s = (.ok x, s₁)) (hrecord : w.record origin x s₁ = (.ok r, s₂)) :
    w.findings origin look (i :: is) s = x :: w.findings origin look is s₂ := by
  rw [findings, hlook]
  exact congrArg (fun s => x :: w.findings origin look is s) (congrArg Prod.snd hrecord)

/-- Looking into places goes into the first one, and from the state that this leaves into the
others. -/
theorem visit_cons_ok {ι : Type} {origin : Active} {look : ι → Walk σ α (Finding α)} {i : ι}
    {is : List ι} {s s' : WalkState σ α} {rs : List Resolution}
    (h : ((i :: is).mapM fun i => look i >>= w.record origin) s = (.ok rs, s')) :
    ∃ x s₁ r s₂ rs', look i s = (.ok x, s₁) ∧ w.record origin x s₁ = (.ok r, s₂) ∧
      (is.mapM fun i => look i >>= w.record origin) s₂ = (.ok rs', s') ∧ rs = r :: rs' := by
  rw [List.mapM_cons] at h
  obtain ⟨r, s₂, hhead, h⟩ := bind_ok h
  obtain ⟨rs', s₃, htail, h⟩ := bind_ok h
  obtain ⟨rfl, rfl⟩ := pure_ok h
  obtain ⟨x, s₁, hx, hrec⟩ := bind_ok hhead
  exact ⟨x, s₁, r, s₂, rs', hx, hrec, htail, rfl⟩

/-- Looking into places and recording what is found changes the graph and leaves resolutions
as the findings say. -/
theorem findings_of_mapM {ι : Type} {origin : Active} {look : ι → Walk σ α (Finding α)}
    (hlook : ∀ i, Reads (look i)) {is : List ι} {s s' : WalkState σ α} {rs : List Resolution}
    (h : (is.mapM fun i => look i >>= w.record origin) s = (.ok rs, s')) :
    rs = s.run.graph.resolveAll origin (w.findings origin look is s) ∧
      s'.run.graph = s.run.graph.absorbAll origin (w.findings origin look is s) := by
  induction is generalizing s rs with
  | nil =>
    rw [List.mapM_nil] at h
    obtain ⟨rfl, rfl⟩ := pure_ok h
    exact ⟨rfl, rfl⟩
  | cons i is ih =>
    obtain ⟨x, s₁, r, s₂, rs', hx, hrec, htail, rfl⟩ := w.visit_cons_ok h
    obtain ⟨s₂', hrec', hrun, -⟩ := w.record_apply origin x s₁
    obtain ⟨hr, rfl⟩ := Prod.mk.inj (hrec'.symm.trans hrec)
    obtain rfl := Except.ok.inj hr
    obtain ⟨rfl, hgraph⟩ := ih htail
    have hkept : s₁.run.graph = s.run.graph := (hlook i).of_eq hx
    have hnext : s₂'.run.graph = s.run.graph.absorb origin x := by
      rw [hrun, ← hkept]
      exact (s₁.run.absorb_onReport _ origin x).symm
    rw [w.findings_cons is hx hrec']
    refine ⟨?_, ?_⟩
    · rw [Run.resolveAll, ← hnext, ← hkept]
      exact congrArg (· :: _) (s₁.run.resolve_onReport _ x).symm
    · rw [hgraph, hnext]
      rfl

/-- Each finding comes from one of the places that were looked into. -/
theorem forall_findings {ι : Type} (origin : Active) {look : ι → Walk σ α (Finding α)}
    {P : ι → Finding α → Prop} (hlook : ∀ i, Yields (look i) (P i)) (is : List ι)
    (s : WalkState σ α) : ∀ x ∈ w.findings origin look is s, ∃ i ∈ is, P i x := by
  induction is generalizing s with
  | nil => exact fun _ hx => nomatch hx
  | cons i is ih =>
    rw [findings]
    rcases hx : look i s with ⟨_ | x, s₁⟩
    · exact fun _ hx => nomatch hx
    · rintro y (_ | ⟨_, hy⟩)
      · exact ⟨i, List.mem_cons_self, hlook i s x s₁ hx⟩
      · obtain ⟨i', hi', hP⟩ := ih _ y hy
        exact ⟨i', List.mem_cons_of_mem _ hi', hP⟩

/-- Asks for the previous versions of the file of an active branch; the first part of `advance`. -/
def askParents (a : Active) : Walk σ α (Except RepositoryFault (List ParentVersion)) := do
  Walk.onRun (Run.onReport fun r => { r with commitsAnalysed := r.commitsAnalysed + 1 })
  Walk.onRun (Run.onReport fun r => { r with walkerCalls := r.walkerCalls + 1 })
  Walk.attempt (Walk.inSession (parentVersions w.repository a.commit.id a.path))

theorem askParents_graph {a : Active} {s s₁ : WalkState σ α}
    {answer : Except RepositoryFault (List ParentVersion)}
    (h : w.askParents a s = (.ok answer, s₁)) :
    s₁.run.graph = s.run.graph.onReport fun p =>
      { p with commitsAnalysed := p.commitsAnalysed + 1 } := by
  unfold askParents at h
  rw [bind_apply, onRun_apply] at h
  dsimp only at h
  rw [bind_apply, onRun_apply] at h
  exact (reads_attempt (reads_inSession _)).of_eq h

theorem mem_distinct {v : ParentVersion} {vs : List ParentVersion} {seen : List String}
    (h : v ∈ distinct vs seen) : v ∈ vs := by
  induction vs generalizing seen with
  | nil => cases h
  | cons u us ih =>
    rw [distinct] at h
    split at h
    · exact List.mem_cons_of_mem _ (ih h)
    · rcases List.mem_cons.mp h with rfl | h
      · exact List.mem_cons_self
      · exact List.mem_cons_of_mem _ (ih h)

/-- Previous versions are those that the repository answers with, one for each commit. -/
theorem parentVersions_answer (r : Repository σ) (id path : String) (x : Session σ) :
    (parentVersions r id path x).1
      = ((r.parentsTouching id path x.world).1.mapError SessionM.stopOf).map (distinct · []) := by
  have hask : (SessionM.ask (r.parentsTouching id path) x).1
      = (r.parentsTouching id path x.world).1.mapError SessionM.stopOf := rfl
  rw [← hask, parentVersions, bind_apply]
  rcases SessionM.ask (r.parentsTouching id path) x with ⟨_ | us, x'⟩ <;> rfl

theorem parentVersions_error {r : Repository σ} {id path : String} {x : Session σ} {stop : Stop}
    (h : (parentVersions r id path x).1 = .error stop) :
    ∃ refusal, (r.parentsTouching id path x.world).1 = .error refusal ∧
      stop = SessionM.stopOf refusal := by
  rw [parentVersions_answer] at h
  rcases hanswer : (r.parentsTouching id path x.world).1 with refusal | vs
  · rw [hanswer] at h
    exact ⟨refusal, rfl, (Except.error.inj h).symm⟩
  · rw [hanswer] at h
    cases h

theorem parentVersions_cache (r : Repository σ) (id path : String) (x : Session σ) :
    (parentVersions r id path x).2.cache = x.cache := by
  have hask : (SessionM.ask (r.parentsTouching id path) x).2.cache = x.cache := rfl
  rw [parentVersions, bind_apply, ← hask]
  rcases SessionM.ask (r.parentsTouching id path) x with ⟨_ | us, x'⟩ <;> rfl

theorem yields_parentVersions (r : Repository σ) (id path : String) :
    Yields (inSession (parentVersions r id path) : Walk σ α (List ParentVersion)) fun vs =>
      ∀ v ∈ vs, r.Touches id path v := by
  intro s vs s' h
  have hanswer : (parentVersions r id path s.session).1 = .ok vs := congrArg Prod.fst h
  rw [parentVersions_answer] at hanswer
  rcases hus : (r.parentsTouching id path s.session.world).1 with refusal | us
  · rw [hus] at hanswer
    cases hanswer
  · rw [hus] at hanswer
    cases hanswer
    exact fun v hv => ⟨_, us, hus, mem_distinct hv⟩

/-- The versions that a walk looks into are named by the repository. -/
theorem yields_askParents (a : Active) :
    Yields (w.askParents a) fun answer => ∀ vs, answer = .ok vs →
      ∀ v ∈ vs, w.repository.Touches a.commit.id a.path v :=
  yields_after fun _ => yields_after fun _ => yields_attempt (yields_parentVersions _ _ _)

variable [Score α]

/-- Looks for the earlier version of an element in a version of its file. -/
def examine (origin : Active) (v : ParentVersion) : Walk σ α (Finding α) := do
  match ← Walk.attempt (w.matchIn origin v.commit v.path) with
  | .error f =>
    Walk.tell .warning "revision_unreadable" [("commit", .text v.commit.shortId),
      ("path", .text v.path), ("error", .text f.message)]
    return .failed ⟨origin.node, .repositoryError, some v.commit.id, some f.message⟩
  | .ok .unparseable => return .failed ⟨origin.node, .unparseable, some v.commit.id, none⟩
  | .ok (.found m) => return .found m
  | .ok .absent => return .ofMove (← w.followMove origin v.viaParent)

/-- Looks for the earlier version of an element in the other files of a parent. -/
def examineParent (origin : Active) (parentId : String) : Walk σ α (Finding α) :=
  return .ofMove (← w.followMove origin parentId)

theorem resolveVersion_eq (origin : Active) (v : ParentVersion) :
    w.resolveVersion origin v = w.examine origin v >>= w.record origin := by
  unfold resolveVersion examine
  rw [bind_assoc]
  refine congrArg (Walk.attempt (w.matchIn origin v.commit v.path) >>= ·) (funext fun answer => ?_)
  rcases answer with f | m | _ | _
  · rw [bind_assoc]
    rfl
  · rw [pure_bind]
    rfl
  · rw [bind_assoc]
    refine congrArg (w.followMove origin v.viaParent >>= ·) (funext fun moved => ?_)
    rw [pure_bind]
    cases moved <;> rfl
  · rw [pure_bind]
    rfl

theorem movesFrom_eq (a : Active) (parentId : String) :
    w.movesFrom a parentId
      = Resolution.branches <$> (w.examineParent a parentId >>= w.record a) := by
  unfold movesFrom examineParent
  rw [bind_assoc, map_bind]
  refine congrArg (w.followMove a parentId >>= ·) (funext fun moved => ?_)
  rw [pure_bind]
  cases moved with
  | none => rfl
  | some m =>
    show w.extend a m = Resolution.branches <$> (Resolution.matched <$> w.extend a m)
    rw [← comp_map]
    exact (id_map _).symm

theorem reads_examine (origin : Active) (v : ParentVersion) : Reads (w.examine origin v) := by
  refine reads_bind (reads_attempt (w.reads_matchIn _ _ _)) fun answer => ?_
  rcases answer with f | m | _ | _
  · exact reads_bind (reads_tell _ _ _) fun _ => reads_pure _
  · exact reads_pure _
  · exact reads_bind (w.reads_followMove _ _) fun _ => reads_pure _
  · exact reads_pure _

theorem reads_examineParent (origin : Active) (parentId : String) :
    Reads (w.examineParent origin parentId) :=
  reads_bind (w.reads_followMove _ _) fun _ => reads_pure _

/-- What is found in a version of a file is at its commit, or at one that its parent was resolved
to. -/
theorem yields_examine (origin : Active) (v : ParentVersion) :
    Yields (w.examine origin v) fun x => x.Fits origin ∧ ∀ m, x = .found m →
      m.At w.matching origin v.commit ∨
        ∃ parent, w.repository.Resolves v.viaParent parent ∧ m.At w.matching origin parent := by
  refine yields_bind (yields_attempt (w.yields_matchIn _ _ _)) fun answer hanswer => ?_
  rcases answer with f | m | _ | _
  · exact yields_after fun _ => yields_pure ⟨⟨rfl, .inl rfl⟩, fun _ h => nomatch h⟩
  · have hfound := hanswer _ rfl m rfl
    exact yields_pure ⟨hfound.kind, fun _ h => Finding.found.inj h ▸ .inl hfound⟩
  · refine yields_bind (w.yields_followMove _ _) fun moved hmoved => yields_pure ⟨?_, ?_⟩
    · exact Finding.fits_ofMove fun m hm => (hmoved m hm).choose_spec.2.kind
    · exact fun m hm => .inr (hmoved m (Finding.ofMove_eq_found.mp hm))
  · exact yields_pure ⟨⟨rfl, .inr rfl⟩, fun _ h => nomatch h⟩

theorem yields_examineParent (origin : Active) (parentId : String) :
    Yields (w.examineParent origin parentId) fun x =>
      (x.Fits origin ∧ ∃ moved, x = .ofMove moved) ∧ ∀ m, x = .found m →
        ∃ parent, w.repository.Resolves parentId parent ∧ m.At w.matching origin parent := by
  refine yields_bind (w.yields_followMove _ _) fun moved hmoved => ?_
  refine yields_pure ⟨⟨?_, moved, rfl⟩, ?_⟩
  · exact Finding.fits_ofMove fun m hm => (hmoved m hm).choose_spec.2.kind
  · exact fun m hm => hmoved m (Finding.ofMove_eq_found.mp hm)

/-! ### Steps -/

/-- The turn of the step that takes a branch in a state.  A version is expanded while the
budget lasts; what becomes of it depends on the answer of the repository, and on what is
found in the places that the answer names.  A step that stops the walk counts as cut. -/
def turn : Branch → WalkState σ α → Turn α
  | .terminated t, _ => .ended t
  | .branching a vs, s => .resolved a (w.findings a (w.examine a) vs s)
  | .active a, s =>
    if w.outOfBudget s then .cut
    else
      match w.askParents a s with
      | (.ok (.error f), _) => .lost a f
      | (.ok (.ok []), s₁) => .fresh a (w.findings a (w.examineParent a) a.commit.parentIds s₁)
      | (.ok (.ok [v]), s₁) => .followed a (w.findings a (w.examine a) [v] s₁)
      | (.ok (.ok vs), _) => .postponed a vs
      | (.error _, _) => .cut

theorem moves_findings {a : Active} {s s' : WalkState σ α} {bss : List (List Branch)}
    (h : (a.commit.parentIds.mapM (w.movesFrom a)) s = (.ok bss, s')) :
    bss.flatten = (s.run.graph.resolveAll a
        (w.findings a (w.examineParent a) a.commit.parentIds s)).flatMap Resolution.branches ∧
      s'.run.graph
        = s.run.graph.absorbAll a (w.findings a (w.examineParent a) a.commit.parentIds s) := by
  rw [funext (w.movesFrom_eq a), mapM_map_outcome] at h
  obtain ⟨rs, hrs, rfl⟩ := map_ok h
  obtain ⟨rfl, hgraph⟩ := w.findings_of_mapM (w.reads_examineParent a) hrs
  exact ⟨List.flatMap_def.symm, hgraph⟩

theorem resolve_findings {a : Active} {vs : List ParentVersion} {s s' : WalkState σ α}
    {bs : List Branch} (h : w.resolve a vs s = (.ok bs, s')) :
    bs = settle a (s.run.graph.resolveAll a (w.findings a (w.examine a) vs s)) ∧
      s'.run.graph = s.run.graph.absorbAll a (w.findings a (w.examine a) vs s) := by
  unfold resolve at h
  rw [funext (w.resolveVersion_eq a)] at h
  obtain ⟨rs, s₁, hrs, h⟩ := bind_ok h
  obtain ⟨rfl, rfl⟩ := pure_ok h
  obtain ⟨rfl, hgraph⟩ := w.findings_of_mapM (w.reads_examine a) hrs
  exact ⟨rfl, hgraph⟩

/-- What the expansion of a version does, by the answer to the question for its parents: the
branches that it leads to, and the state before the expansion is noted. -/
inductive Expands (a : Active) (s : WalkState σ α) : List Branch → WalkState σ α → Prop
  | lost {f : RepositoryFault} {s₁ s₂ : WalkState σ α}
      (asked : w.askParents a s = (.ok (.error f), s₁))
      (told : Walk.tell .warning "walker_failed" [("commit", .text a.commit.shortId),
        ("path", .text a.path), ("error", .text f.message)] s₁ = (.ok (), s₂)) :
      Expands a s [.terminated ⟨a.node, .repositoryError, some a.commit.id, some f.message⟩] s₂
  | fresh {bss : List (List Branch)} {s₁ s₂ : WalkState σ α}
      (asked : w.askParents a s = (.ok (.ok []), s₁))
      (moves : a.commit.parentIds.mapM (w.movesFrom a) s₁ = (.ok bss, s₂)) :
      Expands a s (orIntroduced a bss.flatten) s₂
  | followed {v : ParentVersion} {bs : List Branch} {s₁ s₂ : WalkState σ α}
      (asked : w.askParents a s = (.ok (.ok [v]), s₁))
      (resolved : w.resolve a [v] s₁ = (.ok bs, s₂)) :
      Expands a s bs s₂
  | postponed {v v' : ParentVersion} {vs : List ParentVersion} {s₁ s₂ : WalkState σ α}
      (asked : w.askParents a s = (.ok (.ok (v :: v' :: vs)), s₁))
      (told : Walk.tell .debug "branching" [("commit", .text a.commit.shortId),
        ("parents", .nat (v :: v' :: vs).length)] s₁ = (.ok (), s₂)) :
      Expands a s [.branching a (v :: v' :: vs)] s₂

omit [Score α] in
/-- The branches of a version whose file is new at its commit are what other files lead to, or an
introduction. -/
theorem orIntroduced_of_ok {a : Active} {bs bs' : List Branch} {s s' : WalkState σ α}
    (h : (if bs.isEmpty then pure [.terminated ⟨a.node, .introduced, none, none⟩] else pure bs
      : Walk σ α (List Branch)) s = (.ok bs', s')) :
    bs' = orIntroduced a bs ∧ s' = s := by
  unfold orIntroduced
  split at h
  · rename_i hnone
    rw [if_pos hnone]
    exact pure_ok h
  · rename_i hsome
    rw [if_neg hsome]
    exact pure_ok h

/-- **What becomes of a version that is expanded.** -/
theorem expands_of_advance {a : Active} {bs : List Branch} {s s' : WalkState σ α}
    (h : w.advance a s = (.ok bs, s')) :
    ∃ s₂, w.Expands a s bs s₂ ∧ s' = { s₂ with run := s₂.run.onReport fun r =>
      { r with processing := r.processing ++ [(a.commit.id, a.path)] } } := by
  unfold advance nextBranches at h
  obtain ⟨_, s₀, hcount, h⟩ := bind_ok h
  obtain ⟨bs', s₂, hnext, h⟩ := bind_ok h
  obtain ⟨_, s₃, hlist, h⟩ := bind_ok h
  obtain ⟨rfl, rfl⟩ := pure_ok h
  cases hlist
  refine ⟨s₂, ?_, rfl⟩
  obtain ⟨_, s₀', hcalls, hnext⟩ := bind_ok hnext
  obtain ⟨answer, s₁, hasked, hnext⟩ := bind_ok hnext
  cases hcount
  cases hcalls
  replace hasked : w.askParents a s = (.ok answer, s₁) := hasked
  rcases answer with f | _ | ⟨v, _ | ⟨v', vs⟩⟩
  · obtain ⟨_, s₁', htell, hnext⟩ := bind_ok hnext
    obtain ⟨rfl, rfl⟩ := pure_ok hnext
    exact .lost hasked htell
  · obtain ⟨bss, s₁', hmoves, hnext⟩ := bind_ok hnext
    obtain ⟨rfl, rfl⟩ := orIntroduced_of_ok hnext
    exact .fresh hasked hmoves
  · exact .followed hasked hnext
  · obtain ⟨_, s₁', htell, hnext⟩ := bind_ok hnext
    obtain ⟨rfl, rfl⟩ := pure_ok hnext
    exact .postponed hasked htell

theorem Expands.advance {w : Walker σ α} {a : Active} {bs : List Branch} {s s₂ : WalkState σ α}
    (h : w.Expands a s bs s₂) :
    w.advance a s = (.ok bs, { s₂ with run := s₂.run.onReport fun r =>
      { r with processing := r.processing ++ [(a.commit.id, a.path)] } }) := by
  have hnext : w.nextBranches a
      { s with run := s.run.onReport fun r => { r with commitsAnalysed := r.commitsAnalysed + 1 } }
      = (.ok bs, s₂) := by
    rw [nextBranches, bind_apply, onRun_apply]
    dsimp only
    rw [bind_apply, show attempt (inSession (parentVersions w.repository a.commit.id a.path)) _
      = w.askParents a s from rfl]
    cases h with
    | lost asked told =>
      rw [asked]
      dsimp only
      rw [bind_apply, told]
      rfl
    | fresh asked moves =>
      rw [asked]
      dsimp only
      rw [bind_apply, moves]
      dsimp only
      unfold orIntroduced
      split <;> rfl
    | followed asked resolved =>
      rw [asked]
      exact resolved
    | postponed asked told =>
      rw [asked]
      dsimp only
      rw [bind_apply, told]
      rfl
  rw [Walker.advance, bind_apply, onRun_apply]
  dsimp only
  rw [bind_apply, hnext]
  rfl

/-- A version is expanded only if its parents have been asked for. -/
theorem asked_of_advance {a : Active} {bs : List Branch} {s s' : WalkState σ α}
    (h : w.advance a s = (.ok bs, s')) :
    ∃ answer s₁, w.askParents a s = (.ok answer, s₁) := by
  obtain ⟨s₂, hexpands, -⟩ := w.expands_of_advance h
  cases hexpands with
  | lost asked | fresh asked | followed asked | postponed asked => exact ⟨_, _, asked⟩

theorem advance_turn {a : Active} {rest bs : List Branch} {s s' : WalkState σ α}
    (hbudget : w.outOfBudget s = false) (h : w.advance a s = (.ok bs, s')) :
    (s'.run.graph, rest ++ bs) = s.run.graph.after (.active a) rest (w.turn (.active a) s) := by
  obtain ⟨s₂, hexpands, rfl⟩ := w.expands_of_advance h
  have hsame : ∀ {answer : Except RepositoryFault (List ParentVersion)} {s₁ : WalkState σ α},
      w.askParents a s = (.ok answer, s₁) →
        ∀ xs, s₁.run.graph.resolveAll a xs = s.run.graph.resolveAll a xs := by
    intro answer s₁ hasked xs
    rw [w.askParents_graph hasked, Run.resolveAll_onReport]
  rw [turn, if_neg (Bool.eq_false_iff.mp hbudget)]
  cases hexpands with
  | @lost _ s₁ _ asked told =>
    rw [asked]
    have hkept : s₂.run.graph = s₁.run.graph.absorbAll a [] := (reads_tell _ _ _).of_eq told
    exact Prod.ext (Run.expanded_graph (w.askParents_graph asked) hkept) rfl
  | fresh asked moves =>
    obtain ⟨hbranches, hfound⟩ := w.moves_findings moves
    rw [asked, hbranches, hsame asked]
    exact Prod.ext (Run.expanded_graph (w.askParents_graph asked) hfound) rfl
  | followed asked resolved =>
    obtain ⟨rfl, hfound⟩ := w.resolve_findings resolved
    rw [asked, hsame asked]
    exact Prod.ext (Run.expanded_graph (w.askParents_graph asked) hfound) rfl
  | @postponed _ _ _ s₁ _ asked told =>
    rw [asked]
    have hkept : s₂.run.graph = s₁.run.graph.absorbAll a [] := (reads_tell _ _ _).of_eq told
    exact Prod.ext (Run.expanded_graph (w.askParents_graph asked) hkept) rfl

/-- What a step does, by the branch that it takes and by whether the budget lasts: the work list
and the state after it. -/
inductive Stepped (rest : List Branch) (s : WalkState σ α) :
    Branch → List Branch → WalkState σ α → Prop
  | ended {t : Termination} {s' : WalkState σ α} (ended : Walk.terminate t s = (.ok (), s')) :
      Stepped rest s (.terminated t) rest s'
  | resolved {a : Active} {vs : List ParentVersion} {bs : List Branch} {s' : WalkState σ α}
      (resolved : w.resolve a vs s = (.ok bs, s')) :
      Stepped rest s (.branching a vs) (rest ++ bs) s'
  | cut {a : Active} {s' : WalkState σ α} (used : w.outOfBudget s = true)
      (stopped : Walk.stopAll a rest s = (.ok (), s')) :
      Stepped rest s (.active a) [] s'
  | expanded {a : Active} {bs : List Branch} {s' : WalkState σ α}
      (left : w.outOfBudget s = false) (advanced : w.advance a s = (.ok bs, s')) :
      Stepped rest s (.active a) (rest ++ bs) s'

/-- **What becomes of a branch that a step takes.** -/
theorem stepped_of_step {first : Branch} {rest work : List Branch} {s s' : WalkState σ α}
    (h : w.step first rest s = (.ok work, s')) : w.Stepped rest s first work s' := by
  unfold step at h
  cases first with
  | terminated t =>
    obtain ⟨_, s₁, hend, h⟩ := bind_ok h
    obtain ⟨rfl, rfl⟩ := pure_ok h
    exact .ended hend
  | branching a vs =>
    obtain ⟨bs, s₁, hresolved, h⟩ := bind_ok h
    obtain ⟨rfl, rfl⟩ := pure_ok h
    exact .resolved hresolved
  | active a =>
    obtain ⟨s₀, s₁, hget, h⟩ := bind_ok h
    cases hget
    split at h
    · rename_i hused
      obtain ⟨_, s₁, hstopped, h⟩ := bind_ok h
      obtain ⟨rfl, rfl⟩ := pure_ok h
      exact .cut hused hstopped
    · rename_i hleft
      obtain ⟨bs, s₁, hadvanced, h⟩ := bind_ok h
      obtain ⟨rfl, rfl⟩ := pure_ok h
      exact .expanded (Bool.eq_false_iff.mpr hleft) hadvanced

/-- **Every step takes its turn.**  The graph and the work list after a step are those that
its turn makes of the ones before. -/
theorem step_turn {first : Branch} {rest work : List Branch} {s s' : WalkState σ α}
    (h : w.step first rest s = (.ok work, s')) :
    (s'.run.graph, work) = s.run.graph.after first rest (w.turn first s) := by
  cases w.stepped_of_step h with
  | @ended t _ ended =>
    obtain ⟨s₂, hend, hrun, -⟩ := terminate_apply t s
    obtain ⟨-, rfl⟩ := Prod.mk.inj (hend.symm.trans ended)
    refine Prod.ext ?_ rfl
    show s₂.run.graph = s.run.graph.finish t
    rw [hrun]
    exact (s.run.finish_onReport _ t).symm
  | resolved resolved =>
    obtain ⟨rfl, hfound⟩ := w.resolve_findings resolved
    exact Prod.ext hfound rfl
  | @cut a _ used stopped =>
    -- the budget is used up: the branch ends, and all that wait end with it
    obtain ⟨s₂, hstop, hrun, -⟩ := stopAll_apply a rest s
    obtain ⟨-, rfl⟩ := Prod.mk.inj (hstop.symm.trans stopped)
    rw [turn, if_pos used]
    refine Prod.ext ?_ rfl
    show s₂.run.graph = (s.run.graph.after (.active a) rest .cut).1
    rw [hrun]
    exact (Run.foldl_finish_onReport _ _ _).symm
  | expanded left advanced => exact w.advance_turn left advanced

end Walker
end Lineage
