import Lineage.Proofs.History.Faults
import Lineage.Proofs.History.Seen
import Lineage.Proofs.Repository.Fixed

/-! # Walks come to an end, in order

A walk takes the branches of its work list first come first served, and a version is put there
when its node is made; so versions are expanded in the order of their nodes, and none of them
twice (`Replay.expanded_increasing`, `Walker.Walked.expansions_increasing`).

If all answers name commits and paths of two finite lists, a walk comes to an end without any
budget, whatever else the repository answers, also if commits are parents of each other
(`walk_ends_in_order`).  A step that reads a file which had no entry in the cache leaves fewer such
files, and any other step has seen the same versions as before.
-/
namespace Lineage
variable {σ α : Type} {seed : Active} {log : List (Turn α)} {r : Run α} {work : List Branch}

/-! ### The order of expansions -/

/-- The versions that matches open are to be expanded. -/
theorem Run.active_openAll (r : Run α) (ls : List (Active × Match α)) :
    (r.openAll ls).filterMap Branch.active? = (r.openAll ls).filterMap Branch.open? := by
  refine List.filterMap_congr fun b hb => ?_
  rcases mem_openAll hb with ⟨t, rfl⟩ | ⟨l, -, node, rfl⟩ <;> rfl

/-- **Versions are expanded in the order of their nodes**: those that were expanded, and then those
that are still to be. -/
theorem Replay.expanded_increasing (h : Replay seed log r work) :
    ((log.flatMap Turn.expanded ++ work.filterMap Branch.active?).map Active.node).Pairwise
        (· < ·) ∧
      ∀ a ∈ log.flatMap Turn.expanded ++ work.filterMap Branch.active?,
        a.node < r.nodes.length := by
  induction h with
  | seed hseed =>
    refine ⟨List.pairwise_singleton _ _, fun a ha => ?_⟩
    rw [List.mem_singleton.mp ha, hseed]
    exact Nat.zero_lt_one
  | @turn log r r' first rest work turn before hturn hafter ih =>
    obtain ⟨hpair, hbound⟩ := ih
    have hr' : r' = (r.after first rest turn).1 := congrArg Prod.fst hafter
    have hwork : work = (r.after first rest turn).2 := congrArg Prod.snd hafter
    -- what a turn opens is numbered from the old number of nodes on
    obtain ⟨hnews, hnew⟩ := Run.open_openAll (r := r) turn.links
    have hgrow := Run.nodes_linkAll_length (r := r) turn.links
    rw [List.flatMap_append, List.flatMap_singleton, hr', hwork, Run.nodes_after, List.append_assoc]
    rcases r.expanded_after rest hturn with ⟨-, hnone⟩ | hall
    · rw [hnone, List.append_nil]
      rw [List.map_append] at hpair
      exact ⟨(List.pairwise_append.mp hpair).1, fun a ha =>
        Nat.lt_of_lt_of_le (hbound a (List.mem_append_left _ ha)) hgrow⟩
    · rw [hall, r.active_openAll, ← List.append_assoc, List.map_append]
      refine ⟨List.pairwise_append.mpr ⟨hpair, hnews, fun i hi j hj => ?_⟩, fun a ha => ?_⟩
      · obtain ⟨a, ha, rfl⟩ := List.mem_map.mp hi
        exact Nat.lt_of_lt_of_le (hbound a ha) (hnew j hj).1
      · rcases List.mem_append.mp ha with ha | ha
        · exact Nat.lt_of_lt_of_le (hbound a ha) hgrow
        · exact (hnew a.node (List.mem_map_of_mem ha)).2

/-- The versions that were expanded stand at their nodes, and the report lists them. -/
theorem Replay.processed (h : Replay seed log r work) :
    (∀ a ∈ log.flatMap Turn.expanded, r.Places a) ∧
      r.report.processing
        = (log.flatMap Turn.expanded).map fun a => (a.commit.id, a.path) := by
  induction h with
  | seed _ => exact ⟨List.forall_mem_nil _, rfl⟩
  | @turn log r r' first rest work turn before hturn hafter ih =>
    have hr' : r' = (r.after first rest turn).1 := congrArg Prod.fst hafter
    rw [List.flatMap_append, List.flatMap_singleton, List.map_append, hr']
    refine ⟨fun a ha => Run.places_after (Run.Places.linkAll ?_), ?_⟩
    · rcases List.mem_append.mp ha with ha | ha
      · exact ih.1 a ha
      · obtain rfl := hturn.active_of_expanded ha
        exact before.placed.1 _ List.mem_cons_self a rfl
    · rw [r.processing_after rest hturn, ih.2]

namespace Walker
open Walk
variable [Score α] (w : Walker σ α)

/-- The version that a step expands: that of an active branch, while the budget lasts. -/
def expands? : Branch → WalkState σ α → Option Active
  | .active a, s => if w.outOfBudget s then none else some a
  | .branching _ _, _ | .terminated _, _ => none

/-- The versions that at most `fuel` steps expand, in order. -/
def expansions : Nat → List Branch → WalkState σ α → List Active
  | 0, [], _ | 0, _ :: _, _ | _ + 1, [], _ => []
  | fuel + 1, first :: rest, s =>
    (w.expands? first s).toList ++ match w.step first rest s with
      | (.ok work, s') => expansions fuel work s'
      | (.error _, _) => []

/-- The versions that a walk from a seed expands, in order. -/
def expansionsOf (fuel : Nat) (seed : Active) (x : Session σ) : List Active :=
  w.expansions fuel [.active seed] (opening seed x)

variable {w} {first : Branch} {rest left : List Branch} {s s' : WalkState σ α} {x : Session σ}

/-- The turn of a step says what the step expands. -/
theorem expanded_turn (h : w.step first rest s = (.ok work, s')) :
    (w.turn first s).expanded = (w.expands? first s).toList := by
  cases w.stepped_of_step h with
  | ended | resolved => rfl
  | cut used =>
    rw [turn, expands?, if_pos used, if_pos used]
    rfl
  | expanded left advanced =>
    obtain ⟨answer, s₁, hasked⟩ := w.asked_of_advance advanced
    rw [turn, expands?, if_neg (Bool.eq_false_iff.mp left), if_neg (Bool.eq_false_iff.mp left),
      hasked]
    rcases answer with f | _ | ⟨v, _ | ⟨v', vs⟩⟩ <;> rfl

theorem expansions_eq_log {fuel : Nat} (h : w.steps fuel work s = (.ok left, s')) :
    w.expansions fuel work s = (w.log fuel work s).flatMap Turn.expanded := by
  induction fuel generalizing work s with
  | zero => cases work <;> rfl
  | succ fuel ih =>
    cases work with
    | nil => rfl
    | cons first rest =>
      obtain ⟨work', s₁, hstep, hrest⟩ := bind_ok h
      rw [expansions, log, hstep, List.flatMap_cons, expanded_turn hstep]
      exact congrArg ((w.expands? first s).toList ++ ·) (ih hrest)

/-- The versions that a walk expands are those of its log, if it tells a history. -/
theorem expansionsOf_eq_logOf {fuel : Nat} {commit : Commit} {path : String} {m : Model}
    {e : Element} {x' : Session σ} {h : History α}
    (hh : w.history fuel commit path m e x = (.ok h, x')) :
    w.expansionsOf fuel ⟨0, commit, path, m, e⟩ x
      = (w.logOf fuel ⟨0, commit, path, m, e⟩ x).flatMap Turn.expanded := by
  obtain ⟨s, hsteps, -⟩ := steps_of_history hh
  exact expansions_eq_log hsteps

/-- What a walk has expanded and what further steps expand stand in the order of their nodes. -/
theorem Walked.expansions_increasing (h : w.Walked seed x log s work) (hseed : seed.node = 0)
    (fuel : Nat) :
    ((log.flatMap Turn.expanded ++ w.expansions fuel work s).map Active.node).Pairwise (· < ·) := by
  -- on the fuel: what a step expands is added to what was expanded before
  induction fuel generalizing log s work with
  | zero =>
    have hall := (h.replay hseed).expanded_increasing.1
    rw [List.map_append] at hall
    cases work <;>
    · rw [expansions, List.append_nil]
      exact (List.pairwise_append.mp hall).1
  | succ fuel ih =>
    have hall := (h.replay hseed).expanded_increasing.1
    cases work with
    | nil => exact hall
    | cons first rest =>
      rw [expansions]
      rcases hstep : w.step first rest s with ⟨stop | work', s'⟩
      · -- the step stops: what it has expanded is the first of the versions that are still to be
        dsimp only
        rw [List.append_nil]
        refine hall.sublist (List.Sublist.map _ (List.Sublist.append_left ?_ _))
        cases first with
        | terminated t | branching a vs => exact List.nil_sublist _
        | active a =>
          rw [expands?]
          split
          · exact List.nil_sublist _
          · exact List.cons_sublist_cons.mpr (List.nil_sublist _)
      · have hnext := ih (h.step hstep)
        rw [List.flatMap_append, List.flatMap_singleton, expanded_turn hstep,
          List.append_assoc] at hnext
        exact hnext

end Walker

/-- **The walk ends, and goes in order.**  In a repository whose answers name commits and paths of
two finite lists only, a history is decided after finitely many steps, with or without a budget, and
whatever the parents of commits are; where only faults can go wrong, it is told.  The versions that
a walk expands stand in the order of their nodes, so none is expanded twice; those of a history that
is told are the ones that its report lists. -/
theorem walk_ends_in_order [Score α] {w : Walker σ α} {ids paths : List String}
    (hw : w.repository.NamesOnly ids paths) (commit : Commit) (path : String) (m : Model)
    (e : Element) (x : Session σ) :
    let seed : Active := ⟨0, commit, path, m, e⟩
    (∃ n, (w.history n commit path m e x).1 ≠ .error .unfinished ∧
      (∀ fuel, n ≤ fuel →
        (w.history fuel commit path m e x).1 = (w.history n commit path m e x).1) ∧
      (w.FaultsOnly → w.Remembers x.cache → ∃ h, (w.history n commit path m e x).1 = .ok h)) ∧
    (∀ fuel, ((w.expansionsOf fuel seed x).map Active.node).Pairwise (· < ·)) ∧
    ∀ fuel h x', w.history fuel commit path m e x = (.ok h, x') →
      h.report.processing = (w.expansionsOf fuel seed x).map (fun a => (a.commit.id, a.path)) ∧
      ∀ a ∈ w.expansionsOf fuel seed x, ∃ n ∈ h.nodes, n.index = a.node ∧ n.key = a.key := by
  intro seed
  have htold : ∀ fuel, (w.history fuel commit path m e x).1
      = Walker.told (w.steps fuel [.active seed] (Walker.opening seed x)) := fun fuel =>
    (w.history_told fuel seed rfl x).1
  refine ⟨?_, fun fuel => Walker.Walked.start.expansions_increasing rfl fuel, ?_⟩
  · have hholds : (Walker.sightAccount ids paths seed.key).Holds w :=
      Walker.sightAccount_holds hw seed.key
    have hstart : (Walker.sightAccount ids paths seed.key).state
        (Walker.opening seed x : WalkState σ α) := by
      intro node hnode
      obtain rfl := List.mem_singleton.mp hnode
      exact List.mem_cons_self
    obtain ⟨n, hended, hn⟩ := hholds.comes_to_end (fun h => h rfl)
      (fun c => seed.key :: c.versions (ids ×ˢ paths)) (fun c => c.unseen (ids ×ˢ paths))
      (fun s hs => hs) (fun c c' hc => (hc.fewer (ids ×ˢ paths)).imp_left fun h =>
        ⟨congrArg _ h.1, h.2⟩) rfl .start hstart
    rw [← htold] at hended
    refine ⟨n, hended, fun fuel hfuel => ?_, fun hfaults hx => ?_⟩
    · rw [htold, htold, hn fuel hfuel]
    · exact (Walker.told_or_unfinished hfaults n commit path m e hx).resolve_right hended
  · intro fuel h x' hh
    obtain ⟨s, rfl, hreplay⟩ := Walker.replay_of_history hh
    obtain ⟨hplaces, hprocessing⟩ := hreplay.processed
    rw [Walker.expansionsOf_eq_logOf hh]
    exact ⟨hprocessing, hplaces⟩

/-- A stored graph names the commits and the paths that it stores. -/
theorem Archive.namesOnly_fixed (a : Archive) : a.fixed.NamesOnly (a.commits.map CommitRecord.id)
    (a.commits.flatMap fun c => c.files.map Prod.fst) where
  resolve id c h := by
    obtain ⟨record, hrecord, -, rfl⟩ := resolves_fixed h
    exact List.mem_map_of_mem hrecord
  touching id path v h := by
    obtain ⟨-, -, -, -, hcommit, source, hsource, hpath⟩ := touches_fixed h
    obtain ⟨record, hrecord, -, hid⟩ := resolve_ok hcommit
    rw [hid]
    exact ⟨List.mem_map_of_mem hrecord, List.mem_flatMap.mpr ⟨source, hsource, hpath⟩⟩
  changed id parent s ps h p hp := by
    obtain ⟨source, hsource, hpath⟩ := changes_fixed h hp
    exact List.mem_flatMap.mpr ⟨source, hsource, hpath⟩

/-- Two commits that are parents of each other. -/
def inCircle : Archive :=
  { commits := [
      { id := "a", parents := ["b"], files := [("x.py", "def f():\n    return 1\n".toUTF8.toList)],
        committed := 1 },
      { id := "b", parents := ["a"], files := [("x.py", "def f():\n    return 2\n".toUTF8.toList)],
        committed := 2 }]
    head := "a" }

theorem inCircle_tells :
    (inCircle.fixedTracker "x.py" (.methodAt "f" 1)).tells ⟨(), {}, []⟩ (fun h =>
      h.edges.map (fun e => (e.source, e.target)) = [(0, 1), (1, 0)] ∧
        h.report.processing = [("a", "x.py"), ("b", "x.py")]) = true := by
  decide +kernel

theorem walk_ends_in_order_inCircle : ∃ (w : Walker Unit Float) (ids paths : List String),
    ∃ commit path m e x, w.repository.NamesOnly ids paths ∧ w.config.maxCommits = none ∧
    w.config.maxSeconds = none ∧
    (∃ fuel h x', w.history fuel commit path m e x = (.ok h, x') ∧
      h.edges.map (fun e => (e.source, e.target)) = [(0, 1), (1, 0)]) ∧
    let seed : Active := ⟨0, commit, path, m, e⟩
    (∃ n, (w.history n commit path m e x).1 ≠ .error .unfinished ∧
      (∀ fuel, n ≤ fuel →
        (w.history fuel commit path m e x).1 = (w.history n commit path m e x).1) ∧
      (w.FaultsOnly → w.Remembers x.cache → ∃ h, (w.history n commit path m e x).1 = .ok h)) ∧
    (∀ fuel, ((w.expansionsOf fuel seed x).map Active.node).Pairwise (· < ·)) ∧
    ∀ fuel h x', w.history fuel commit path m e x = (.ok h, x') →
      h.report.processing = (w.expansionsOf fuel seed x).map (fun a => (a.commit.id, a.path)) ∧
      ∀ a ∈ w.expansionsOf fuel seed x, ∃ n ∈ h.nodes, n.index = a.node ∧ n.key = a.key := by
  obtain ⟨h, x', ht, hfacts⟩ := Tracker.exists_of_tells inCircle_tells
  obtain ⟨commit, m, e, x, -, hh⟩ := Tracker.history_of_track ht
  exact ⟨_, _, _, commit, "x.py", m, e, x, inCircle.namesOnly_fixed, rfl, rfl,
    ⟨_, h, x', hh, (of_decide_eq_true hfacts).1⟩,
    walk_ends_in_order inCircle.namesOnly_fixed commit "x.py" m e x⟩

end Lineage
