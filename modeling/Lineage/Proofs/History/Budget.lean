import Lineage.Proofs.History.Alike
import Lineage.Proofs.History.Extraction
import Lineage.Proofs.History.Seed

/-! # A budget of commits

A walk with a budget of `k` commits and one without a budget go in step until the first one
comes to a version with its budget used up.  There it ends all branches; its versions and
changes stay.  The other one goes on, and adds to the end of its lists (`Run.Grows`).  So the
budget cuts a history off and changes nothing in what is left (`Run.CutOff`,
`commit_budget_cuts_off`).

Neither looking nor recording looks at the budget; `advance_withCommits` and
`resolve_withCommits` say so for a walker whose budget is changed (`Walker.withCommits`).
-/
namespace Lineage
variable {σ α : Type}

/-- The walker with another budget of commits. -/
def Walker.withCommits (w : Walker σ α) (most : Option Int) : Walker σ α :=
  { w with config := { w.config with maxCommits := most } }

/-! ### Runs that grow -/

namespace Run
variable {r r' r'' : Run α} {a : Active} {m : Match α}

/-- Versions and changes are added at the end, and the count of expanded versions does not fall. -/
structure Grows (r r' : Run α) : Prop where
  nodes : r.nodes <+: r'.nodes
  edges : r.edges <+: r'.edges
  commits : r.report.commitsAnalysed ≤ r'.report.commitsAnalysed

theorem grows_refl (r : Run α) : r.Grows r :=
  ⟨List.prefix_refl _, List.prefix_refl _, Int.le_refl _⟩

theorem Grows.trans (h : r.Grows r') (h' : r'.Grows r'') : r.Grows r'' :=
  ⟨h.nodes.trans h'.nodes, h.edges.trans h'.edges, Int.le_trans h.commits h'.commits⟩

theorem grows_after (r : Run α) {first : Branch} (rest : List Branch) {turn : Turn α}
    (hturn : turn.Concerns first) : r.Grows (r.after first rest turn).1 := by
  obtain ⟨hnodes, hedges⟩ := r.graph_after first rest turn
  obtain ⟨hmore, hmore'⟩ := r.prefix_linkAll turn.links
  refine ⟨hnodes ▸ hmore, hedges ▸ hmore', ?_⟩
  rw [r.commits_after rest hturn]
  omega

/-- The run is another one that a budget of `k` commits has cut off, if that one needs more. -/
structure CutOff (k : Int) (r' r : Run α) : Prop where
  nodes : r'.nodes <+: r.nodes
  edges : r'.edges <+: r.edges
  commits : r'.report.commitsAnalysed ≤ k
  exceeded : r'.budgetExceeded = true ↔ k < r.report.commitsAnalysed
  same : r'.budgetExceeded = false → r'.graph = r.graph

end Run

namespace Walker
open Walk
variable (w : Walker σ α) (most : Option Int)

theorem shares_withCommits : w.Shares (w.withCommits most) := ⟨rfl, rfl⟩

variable [Score α]

/-! ### What does not look at the budget -/

theorem searchFiles_withCommits (origin : Active) (parent : Commit) (paths : List String)
    (best : Option (Match α)) :
    (w.withCommits most).searchFiles origin parent paths best
      = w.searchFiles origin parent paths best := by
  induction paths generalizing best with
  | nil => rfl
  | cons path rest ih =>
    unfold searchFiles
    simp only [ih]
    rfl

theorem followMove_withCommits (origin : Active) (parentId : String) :
    (w.withCommits most).followMove origin parentId = w.followMove origin parentId := by
  unfold followMove findMoved
  simp only [searchFiles_withCommits]
  rfl

theorem resolve_withCommits (origin : Active) (pending : List ParentVersion) :
    (w.withCommits most).resolve origin pending = w.resolve origin pending := by
  have hversion : (w.withCommits most).resolveVersion origin = w.resolveVersion origin := by
    funext v
    unfold resolveVersion
    simp only [followMove_withCommits]
    rfl
  unfold resolve
  rw [hversion]

theorem advance_withCommits (a : Active) : (w.withCommits most).advance a = w.advance a := by
  have hmoves : (w.withCommits most).movesFrom a = w.movesFrom a := by
    funext parentId
    unfold movesFrom
    simp only [followMove_withCommits]
    rfl
  unfold advance nextBranches
  simp only [resolve_withCommits, hmoves]
  rfl

/-- A step that takes no version does not look at the budget. -/
theorem step_withCommits {first : Branch} (hfirst : first.active? = none) (rest : List Branch) :
    (w.withCommits most).step first rest = w.step first rest := by
  cases first with
  | terminated t => rfl
  | branching origin pending =>
    unfold step
    dsimp only
    rw [resolve_withCommits]
  | active a => cases hfirst

/-! ### Two walks in step -/

variable {w} {most} {k : Int} {first : Branch} {rest work : List Branch} {s s' t : WalkState σ α}

/-- A walk makes its run grow. -/
theorem grows_step (h : w.step first rest s = (.ok work, t)) : s.run.Grows t.run := by
  have hgrows := s.run.graph.grows_after rest (w.turn_concerns first s)
  rw [← congrArg Prod.fst (w.step_turn h)] at hgrows
  exact ⟨hgrows.nodes, hgrows.edges, hgrows.commits⟩

theorem grows_steps {fuel : Nat} {left : List Branch} (h : w.steps fuel work s = (.ok left, t)) :
    s.run.Grows t.run := by
  induction fuel generalizing work s with
  | zero =>
    cases work <;>
    · obtain ⟨-, rfl⟩ := pure_ok h
      exact Run.grows_refl t.run
  | succ fuel ih =>
    cases work with
    | nil =>
      obtain ⟨-, rfl⟩ := pure_ok h
      exact Run.grows_refl t.run
    | cons first rest =>
      obtain ⟨work, s₁, hstep, hrest⟩ := bind_ok h
      exact (grows_step hstep).trans (ih hrest)

/-- Without a budget each step counts the version that it takes, and the flag is never set. -/
theorem counts_step (hr : w.repository.Steady) (hs : w.Remembers s.session.cache)
    (hbudget : ∀ s, w.outOfBudget s = false) (h : w.step first rest s = (.ok work, t)) :
    (t.run.budgetExceeded = false ↔ s.run.budgetExceeded = false) ∧
      t.run.report.commitsAnalysed
        = s.run.report.commitsAnalysed + if first.active?.isSome then 1 else 0 := by
  have hturn := w.turn_concerns first s
  have hcut : w.turn first s ≠ .cut := by
    intro hcut
    have hfinds := (finds_of_step hr hs h).1
    rw [hcut] at hfinds
    cases hfinds with
    | cut hused => exact Bool.false_ne_true ((hbudget _).symm.trans hused)
  have hgraph : t.run.graph = (s.run.graph.after first rest (w.turn first s)).1 :=
    congrArg Prod.fst (w.step_turn h)
  constructor
  · show t.run.graph.budgetExceeded = false ↔ s.run.graph.budgetExceeded = false
    rw [hgraph, Run.budgetExceeded_after _ hturn]
    exact and_iff_left hcut
  · show t.run.graph.report.commitsAnalysed = s.run.graph.report.commitsAnalysed + _
    rw [hgraph, s.run.graph.commits_after rest hturn, hturn.length_expanded hcut]
    split <;> rfl

omit [Score α] in
theorem outOfBudget_withCommits (hstopped : ∀ world, w.stopped world = false) :
    (w.withCommits most).outOfBudget s = most.any (· ≤ s.run.report.commitsAnalysed) := by
  rw [outOfBudget_eq]
  show (w.stopped s.session.world || _) = _
  rw [hstopped]
  rfl

variable (hr : w.repository.Steady) (hstopped : ∀ world, w.stopped world = false)
include hr hstopped

/-- Before the budget is used up, a step with it is one without it. -/
theorem step_in_step (rest : List Branch) (h : w.Alike (fun _ => ()) s s')
    (hbudget : first.active?.isSome → s.run.report.commitsAnalysed < k) :
    ((w.withCommits none).step first rest s).1 = ((w.withCommits (some k)).step first rest s').1 ∧
      w.Alike (fun _ => ()) ((w.withCommits none).step first rest s).2
        ((w.withCommits (some k)).step first rest s').2 := by
  have hstill := w.repository.advances_still
  cases first with
  | terminated t | branching origin pending =>
    rw [w.step_withCommits none rfl, w.step_withCommits (some k) rfl]
    exact uniform_step hr (timedBy_still hstopped) _ rest s s' h
  | active a =>
    have hless : ¬ k ≤ s'.run.report.commitsAnalysed := by
      have hleft := hbudget rfl
      obtain ⟨-, -, -, -, hcommits⟩ := Run.of_graph h.graph
      omega
    rw [step_active, step_active, outOfBudget_withCommits hstopped,
      outOfBudget_withCommits hstopped, if_neg (by simp), if_neg (by simpa using hless),
      w.advance_withCommits none, w.advance_withCommits (some k)]
    exact uniform_bind (uniform_advance hr hstill a) (fun _ => uniform_pure _) s s' h

/-- A step without a budget counts. -/
theorem counts_free (hs : w.Remembers s.session.cache)
    (h : (w.withCommits none).step first rest s = (.ok work, t)) :
    (t.run.budgetExceeded = false ↔ s.run.budgetExceeded = false) ∧
      t.run.report.commitsAnalysed
        = s.run.report.commitsAnalysed + if first.active?.isSome then 1 else 0 :=
  counts_step (w := w.withCommits none) hr ((w.shares_withCommits none).remembers_iff.mpr hs)
    (fun _ => outOfBudget_withCommits hstopped) h

/-- Where the budget is used up, the walk ends, and one without a budget goes on. -/
theorem cutOff_of_used {fuel : Nat} {a : Active} (h : w.Alike (fun _ => ()) s s')
    (hk : s.run.report.commitsAnalysed = k)
    (hsteps : (w.withCommits none).steps (fuel + 1) (.active a :: rest) s = (.ok [], t)) :
    ∃ t', (w.withCommits (some k)).steps (fuel + 1) (.active a :: rest) s' = (.ok [], t') ∧
      t'.run.CutOff k t.run := by
  obtain ⟨hnodes, hedges, -, -, hcommits⟩ := Run.of_graph h.graph
  have hused : (w.withCommits (some k)).outOfBudget s' = true := by
    rw [outOfBudget_withCommits hstopped, ← hcommits, hk]
    simp
  obtain ⟨t', hstop, hrun, -⟩ := stopAll_apply a rest s'
  have hbare : t'.run.bare = s'.run.bare :=
    (congrArg Run.bare hrun).trans (Run.bare_foldl_finish _ (.active a :: rest))
  have hnodes' : t'.run.nodes = s.run.nodes := (congrArg Run.nodes hbare :).trans hnodes.symm
  have hedges' : t'.run.edges = s.run.edges := (congrArg Run.edges hbare :).trans hedges.symm
  have hcommits' : t'.run.report.commitsAnalysed = k := by
    rw [hrun, (Run.report_foldl_finish _ _).1, ← hk, hcommits]
  have hflag : t'.run.budgetExceeded = true :=
    (congrArg Run.budgetExceeded hrun).trans ((Run.report_foldl_finish _ _).2)
  refine ⟨t', ?_, ?_⟩
  · rw [steps, bind_apply, step_active, if_pos hused, bind_apply, hstop]
    cases fuel <;> rfl
  · -- the other walk expands the version, and adds to what was there
    obtain ⟨work, s₁, hstep, hrest⟩ := bind_ok hsteps
    have hgrows := (grows_step hstep).trans (grows_steps hrest)
    have hcount := (counts_free hr hstopped h.left hstep).2
    have hmore := (grows_steps hrest).commits
    replace hcount : s₁.run.report.commitsAnalysed = k + 1 := hk ▸ hcount
    exact
      { nodes := hnodes' ▸ hgrows.nodes
        edges := hedges' ▸ hgrows.edges
        commits := Int.le_of_eq hcommits'
        exceeded := iff_of_true hflag (by omega)
        same := fun hsame => absurd (hflag.symm.trans hsame) Bool.noConfusion }

omit hr hstopped [Score α] in
/-- Two walks that are done without having used up the budget have one graph. -/
theorem cutOff_of_done (h : w.Alike (fun _ => ()) s s') (hgoing : s.run.budgetExceeded = false)
    (hk : s.run.report.commitsAnalysed ≤ k) : s'.run.CutOff k s.run := by
  obtain ⟨hnodes, hedges, -, hflag, hcommits⟩ := Run.of_graph h.graph
  exact
    { nodes := hnodes ▸ List.prefix_refl s.run.nodes
      edges := hedges ▸ List.prefix_refl s.run.edges
      commits := hcommits ▸ hk
      exceeded := iff_of_false
        (fun hset => Bool.noConfusion (hset.symm.trans (hflag.symm.trans hgoing))) (by omega)
      same := fun _ => h.graph.symm }

/-- **The walk with a budget is the one without, cut off.** -/
theorem steps_cutOff {fuel : Nat} (h : w.Alike (fun _ => ()) s s')
    (hgoing : s.run.budgetExceeded = false) (hk : s.run.report.commitsAnalysed ≤ k)
    (hsteps : (w.withCommits none).steps fuel work s = (.ok [], t)) :
    ∃ t', (w.withCommits (some k)).steps fuel work s' = (.ok [], t') ∧ t'.run.CutOff k t.run := by
  -- on the fuel: the walks go in step until the budget is used up, if it ever is
  induction fuel generalizing work s s' with
  | zero =>
    cases work with
    | nil =>
      obtain ⟨-, rfl⟩ := pure_ok hsteps
      exact ⟨s', rfl, cutOff_of_done h hgoing hk⟩
    | cons first rest => cases (pure_ok hsteps).1
  | succ fuel ih =>
    cases work with
    | nil =>
      obtain ⟨-, rfl⟩ := pure_ok hsteps
      exact ⟨s', rfl, cutOff_of_done h hgoing hk⟩
    | cons first rest =>
      by_cases hused : first.active?.isSome ∧ s.run.report.commitsAnalysed = k
      · obtain ⟨hactive, hused⟩ := hused
        cases first with
        | active a => exact cutOff_of_used hr hstopped h hused hsteps
        | branching | terminated => cases hactive
      · obtain ⟨work, s₁, hstep, hrest⟩ := bind_ok hsteps
        have hleft : first.active?.isSome → s.run.report.commitsAnalysed < k := fun hactive =>
          Int.lt_iff_le_and_ne.mpr ⟨hk, fun heq => hused ⟨hactive, heq⟩⟩
        obtain ⟨hsame, hnext⟩ := step_in_step hr hstopped rest h hleft
        obtain ⟨hflag, hcount⟩ := counts_free hr hstopped h.left hstep
        rw [hstep] at hsame hnext
        have hstep' : (w.withCommits (some k)).step first rest s'
            = (.ok work, ((w.withCommits (some k)).step first rest s').2) :=
          Prod.ext hsame.symm rfl
        have hk₁ : s₁.run.report.commitsAnalysed ≤ k := by
          rw [hcount]
          split
          · exact hleft ‹_›
          · omega
        obtain ⟨t', hsteps', hcut⟩ := ih hnext (hflag.mpr hgoing) hk₁ hrest
        refine ⟨t', ?_, hcut⟩
        rw [steps, bind_apply, hstep']
        exact hsteps'

end Walker

/-- **A budget of commits cuts a history off and never alters it.**  In a repository that does not
change, with neither cancellation nor a limit of time, the history with a budget of `k` commits has
the first versions and the first changes of the one without a budget, of at most `k` commits.  The
flag says whether the other history takes more than `k` commits; if not, the two have the same
versions, changes and ends of branches. -/
theorem commit_budget_cuts_off [Score α] {w : Walker σ α} {k fuel : Nat} {commit : Commit}
    {path : String} {m : Model} {e : Element} {x x' y : Session σ} {h : History α}
    (hr : w.repository.Steady) (hcancelled : ∀ world, w.cancelled world = false)
    (hseconds : w.config.maxSeconds = none) (hx : w.Remembers x.cache) (hx' : w.Remembers x'.cache)
    (hh : (w.withCommits none).history fuel commit path m e x = (.ok h, y)) :
    ∃ h' y', (w.withCommits (some k)).history fuel commit path m e x' = (.ok h', y') ∧
      h'.nodes <+: h.nodes ∧ h'.edges <+: h.edges ∧ h'.report.commitsAnalysed ≤ k ∧
      (h'.budgetExceeded = true ↔ k < h.report.commitsAnalysed) ∧
      (h'.budgetExceeded = false →
        h'.nodes = h.nodes ∧ h'.edges = h.edges ∧ h'.terminations = h.terminations) := by
  have hstopped : ∀ world, w.stopped world = false := by
    intro world
    unfold Walker.stopped
    rw [hcancelled, hseconds]
    rfl
  let seed : Active := ⟨0, commit, path, m, e⟩
  have hstart : w.Alike (fun _ => ()) (Walker.opening seed x : WalkState σ α)
      (Walker.opening seed x') := ⟨rfl, rfl, hx, hx'⟩
  obtain ⟨htold, -⟩ := (w.withCommits none).history_told fuel seed rfl x
  obtain ⟨htold', -⟩ := (w.withCommits (some k)).history_told fuel seed rfl x'
  rw [show (w.withCommits none).history fuel seed.commit seed.path seed.model seed.element x = _
    from hh] at htold
  rcases hsteps : (w.withCommits none).steps fuel [.active seed] (Walker.opening seed x)
    with ⟨stop | _ | ⟨b, bs⟩, t⟩ <;> rw [hsteps] at htold <;> cases htold
  obtain ⟨t', hsteps', hcut⟩ := Walker.steps_cutOff (k := k) hr hstopped hstart rfl
    (Int.natCast_nonneg k) hsteps
  rw [hsteps'] at htold'
  refine ⟨t'.run.toHistory, _, Prod.ext htold' rfl, hcut.nodes, hcut.edges, hcut.commits,
    hcut.exceeded, fun hflag => ?_⟩
  obtain ⟨hnodes, hedges, hends, -⟩ := Run.of_graph (hcut.same hflag)
  exact ⟨hnodes, hedges, hends⟩

/-- A variable that gets a new value in each of two commits. -/
def threeValues : Archive :=
  { commits := [
      { id := "r", files := [("x.py", "v = 1\n".toUTF8.toList)], committed := 1 },
      { id := "a", parents := ["r"], files := [("x.py", "v = 2\n".toUTF8.toList)], committed := 2 },
      { id := "m", parents := ["a"], files := [("x.py", "v = 3\n".toUTF8.toList)], committed := 3 }]
    head := "m" }

theorem threeValues_tells :
    (threeValues.fixedTracker "x.py" (.variableAt none "v" 1)).tells ⟨(), {}, []⟩ (fun h =>
      h.nodes.map HistoryNode.commitId = ["m", "a", "r"] ∧
        h.report.commitsAnalysed = 3) = true := by
  decide +kernel

theorem commit_budget_cuts_off_threeValues : ∃ (w : Walker Unit Float) (k fuel : Nat),
    ∃ commit path m e x x' y h, w.repository = threeValues.fixed ∧ w.repository.Steady ∧
    (∀ world, w.cancelled world = false) ∧ w.config.maxSeconds = none ∧ w.Remembers x.cache ∧
    w.Remembers x'.cache ∧
    (w.withCommits none).history fuel commit path m e x = (.ok h, y) ∧ h.nodes.length = 3 ∧
    k < h.report.commitsAnalysed ∧
    ∃ h' y', (w.withCommits (some k)).history fuel commit path m e x' = (.ok h', y') ∧
      h'.nodes <+: h.nodes ∧ h'.edges <+: h.edges ∧ h'.report.commitsAnalysed ≤ k ∧
      (h'.budgetExceeded = true ↔ k < h.report.commitsAnalysed) ∧
      (h'.budgetExceeded = false →
        h'.nodes = h.nodes ∧ h'.edges = h.edges ∧ h'.terminations = h.terminations) := by
  obtain ⟨h, y, htrack, hfacts⟩ := Tracker.exists_of_tells threeValues_tells
  obtain ⟨commit, m, e, x, hstart, hh⟩ := Tracker.history_of_track htrack
  obtain ⟨-, -, -, hx⟩ :=
    Tracker.start_spec Archive.steady_fixed Walker.remembers_empty hstart
  obtain ⟨hids, hcommits⟩ := of_decide_eq_true hfacts
  have hlength := congrArg List.length hids
  rw [List.length_map] at hlength
  have hmore : ((1 : Nat) : Int) < h.report.commitsAnalysed := by
    rw [hcommits]
    decide
  exact ⟨_, 1, _, commit, "x.py", m, e, x, x, y, h, rfl, Archive.steady_fixed, fun _ => rfl, rfl,
    hx, hx, hh, hlength, hmore,
    commit_budget_cuts_off Archive.steady_fixed (fun _ => rfl) rfl hx hx hh⟩

end Lineage
