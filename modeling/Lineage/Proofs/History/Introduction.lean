import Lineage.Proofs.History.Branches

/-! # Where a history says that an element was introduced

A version is introduced where nothing was found for it.  For a file that its commit
changed this is decided by what was found: no failure and no match.  For a file that is
new it is decided by the branches that are left, and a match of a version that is known
already leaves none; so the version gets an edge and an introduction (`Rejoins`).  That is
the one way in which the two come together (`introduced_iff_rejoins`).
-/
namespace Lineage
variable {σ α : Type}

/-- A version with the key was reached in the turns of a log. -/
def Known (seed : Active) (log : List (Turn α)) (key : VersionKey) : Prop :=
  ∃ v ∈ reached seed (log.flatMap Turn.links), key = v.1

/-- What a turn after a log introduces is a version without matches, or one of a new file
all of whose matches were known. -/
def Turn.Introduces (seed : Active) (log : List (Turn α)) (node : Int) : Turn α → Prop
  | .fresh a xs => a.node = node ∧ ∀ m, .found m ∈ xs → Known seed log m.key
  | .followed a xs | .resolved a xs => a.node = node ∧ ∀ x ∈ xs, x = .absent
  | .ended _ | .cut | .lost _ _ | .postponed _ _ => False

/-- A turn of the log examined a version of a new file, there were matches of it in other
files, and each was of a version that the walk knew before. -/
def Rejoins (seed : Active) (log : List (Turn α)) (node : Int) : Prop :=
  ∃ before a xs after, log = before ++ .fresh a xs :: after ∧ (a.node : Int) = node ∧
    (∃ m, .found m ∈ xs) ∧ ∀ m, .found m ∈ xs → Known seed before m.key

/-! ### What a turn introduces -/

namespace Run
variable {r : Run α} {seed a : Active} {m : Match α} {ls : List (Active × Match α)}

theorem opened_eq_nil : r.opened m = [] ↔ (r.known? m).isSome := by
  unfold opened
  split
  · rename_i hknown
    exact iff_of_true rfl hknown
  · rename_i hnew
    refine iff_of_false ?_ hnew
    split <;> exact List.cons_ne_nil _ _

/-- Matches open no branch exactly if all their versions are known. -/
theorem openAll_eq_nil : r.openAll ls = [] ↔ ∀ l ∈ ls, (r.known? l.2).isSome := by
  induction ls generalizing r with
  | nil => exact iff_of_true rfl fun _ h => nomatch h
  | cons l ls ih =>
    rw [openAll, List.append_eq_nil_iff, opened_eq_nil, ih, List.forall_mem_cons]
    refine and_congr_right fun hknown => ?_
    obtain ⟨i, hi⟩ := Option.isSome_iff_exists.mp hknown
    have hsame : ∀ m, (r.link l.1 l.2).known? m = r.known? m := fun m =>
      congrArg (List.findIdx? fun n : HistoryNode => n.key = m.key) (nodesWith_of_known hi)
    simp only [hsame]

theorem reason_of_mem_branches {xs : List (Finding α)} (hfits : ∀ x ∈ xs, x.Fits a)
    {t : Termination} (h : .terminated t ∈ (r.resolveAll a xs).flatMap Resolution.branches) :
    t.reason ≠ .introduced := by
  rcases (r.mem_branches a).mp h with ⟨u, hu, heq⟩ | h
  · obtain rfl := Branch.terminated.inj heq
    rcases (hfits _ hu).2 with hreason | hreason <;> rw [hreason] <;> decide
  · rw [reason_of_mem_openAll h]
    decide

theorem all_absent {xs : List (Finding α)} :
    (r.resolveAll a xs).all Resolution.isAbsent = true ↔ ∀ x ∈ xs, x = .absent := by
  induction xs generalizing r with
  | nil => exact iff_of_true rfl fun _ h => nomatch h
  | cons x xs ih =>
    rw [resolveAll, List.all_cons, Bool.and_eq_true, ih, List.forall_mem_cons]
    refine and_congr_left fun _ => ?_
    cases x <;> simp [resolve, Resolution.isAbsent]

theorem introduced_mem_settle {xs : List (Finding α)} (hfits : ∀ x ∈ xs, x.Fits a) {node : Int} :
    (∃ t, .terminated t ∈ Walker.settle a (r.resolveAll a xs) ∧ t.node = node ∧
      t.reason = .introduced) ↔ a.node = node ∧ ∀ x ∈ xs, x = .absent := by
  rw [← all_absent (r := r) (a := a)]
  unfold Walker.settle
  constructor
  · rintro ⟨t, ht, hnode, hreason⟩
    rcases List.mem_append.mp ht with ht | ht
    · exact absurd hreason (reason_of_mem_branches hfits ht)
    · split at ht
      · rename_i habsent
        obtain rfl := Branch.terminated.inj (List.mem_singleton.mp ht)
        exact ⟨hnode, habsent⟩
      · cases ht
  · rintro ⟨hnode, habsent⟩
    rw [if_pos habsent]
    exact ⟨_, List.mem_append_right _ (List.mem_singleton.mpr rfl), hnode, rfl⟩

theorem introduced_mem_fresh {xs : List (Finding α)} (hfits : ∀ x ∈ xs, x.Fits a)
    (hmoves : ∀ x ∈ xs, ∃ moved, x = .ofMove moved) {node : Int} :
    (∃ t, .terminated t ∈ orIntroduced a ((r.resolveAll a xs).flatMap Resolution.branches) ∧
      t.node = node ∧ t.reason = .introduced) ↔
        a.node = node ∧ ∀ m, .found m ∈ xs → (r.known? m).isSome := by
  have hnone : ((r.resolveAll a xs).flatMap Resolution.branches).isEmpty = true ↔
      ∀ m, .found m ∈ xs → (r.known? m).isSome := by
    rw [List.isEmpty_iff, List.eq_nil_iff_forall_not_mem]
    constructor
    · intro hnil m hm
      have hopen : r.openAll ((xs.filterMap Finding.match?).map (a, ·)) = [] :=
        List.eq_nil_iff_forall_not_mem.mpr fun b hb => hnil b ((r.mem_branches a).mpr (.inr hb))
      exact openAll_eq_nil.mp hopen (a, m) (Finding.mem_links.mpr ⟨rfl, hm⟩)
    · intro hknown b hb
      rcases (r.mem_branches a).mp hb with ⟨t, ht, -⟩ | hb
      · obtain ⟨moved, hmoved⟩ := hmoves _ ht
        cases moved <;> cases hmoved
      · have hopen : r.openAll ((xs.filterMap Finding.match?).map (a, ·)) = [] := by
          refine openAll_eq_nil.mpr fun l hl => ?_
          obtain ⟨rfl, hm⟩ := Finding.mem_links.mp hl
          exact hknown l.2 hm
        rw [hopen] at hb
        cases hb
  rw [← hnone]
  unfold orIntroduced
  split
  · rename_i hempty
    refine ⟨fun ⟨t, ht, hnode, _⟩ => ?_, fun ⟨hnode, _⟩ =>
      ⟨_, List.mem_singleton.mpr rfl, hnode, rfl⟩⟩
    obtain rfl := Branch.terminated.inj (List.mem_singleton.mp ht)
    exact ⟨hnode, hempty⟩
  · rename_i hsome
    refine ⟨fun ⟨t, ht, _, hreason⟩ => absurd hreason (reason_of_mem_branches hfits ht),
      fun ⟨_, hempty⟩ => absurd hempty hsome⟩

end Run
/-! ### What a walk introduces -/

variable {seed : Active} {log : List (Turn α)} {r : Run α} {work : List Branch}

theorem Run.Records.known (h : r.Records seed (log.flatMap Turn.links)) (m : Match α) :
    (r.known? m).isSome ↔ Known seed log m.key := h.known?_isSome m

/-- Among the branches that a turn adds there is the introduction of a version exactly if
the turn introduces it. -/
theorem introduced_mem_news {first : Branch} {turn : Turn α} (hturn : turn.Concerns first)
    (hrec : r.Records seed (log.flatMap Turn.links)) {node : Int} :
    (∃ t, .terminated t ∈ r.news turn ∧ t.node = node ∧ t.reason = .introduced) ↔
      turn.Introduces seed log node := by
  cases hturn with
  | ended t | cut a => exact iff_of_false (fun ⟨_, ht, _⟩ => nomatch ht) id
  | lost a f =>
    refine iff_of_false (fun ⟨t, ht, _, hreason⟩ => ?_) id
    obtain rfl := Branch.terminated.inj (List.mem_singleton.mp ht)
    cases hreason
  | postponed a vs =>
    exact iff_of_false (fun ⟨t, ht, _⟩ => nomatch List.mem_singleton.mp ht) id
  | fresh hfits hmoves =>
    simp only [Run.news, Turn.Introduces, ← hrec.known]
    exact Run.introduced_mem_fresh hfits hmoves
  | followed hfits | resolved hfits => exact Run.introduced_mem_settle hfits

/-- Some turn of a log has a property that depends on the turns before it. -/
theorem exists_turn_append {P : List (Turn α) → Turn α → Prop} {turn : Turn α} :
    (∃ before t after, log ++ [turn] = before ++ t :: after ∧ P before t) ↔
      (∃ before t after, log = before ++ t :: after ∧ P before t) ∨ P log turn := by
  constructor
  · rintro ⟨before, t, after, heq, hP⟩
    rcases List.eq_nil_or_concat after with rfl | ⟨after, last, rfl⟩
    · obtain ⟨rfl, hlast⟩ := List.append_inj' heq rfl
      obtain rfl := List.singleton_inj.mp hlast
      exact .inr hP
    · rw [List.concat_eq_append, ← List.cons_append, ← List.append_assoc] at heq
      obtain ⟨rfl, -⟩ := List.append_inj' heq rfl
      exact .inl ⟨before, t, after, rfl, hP⟩
  · rintro (⟨before, t, after, rfl, hP⟩ | hP)
    · exact ⟨before, t, after ++ [turn], by simp, hP⟩
    · exact ⟨log, turn, [], rfl, hP⟩

/-- A walk introduces the versions that its turns introduce. -/
theorem Replay.introduced_iff (h : Replay seed log r work) {node : Int} :
    r.Ends work node .introduced ↔
      ∃ before turn after, log = before ++ turn :: after ∧ turn.Introduces seed before node := by
  induction h with
  | seed _ =>
    refine iff_of_false ?_ fun ⟨_, _, _, heq, _⟩ => by simp at heq
    rintro (⟨t, ht, _⟩ | ⟨t, ht, _⟩)
    · cases ht
    · exact nomatch List.mem_singleton.mp ht
  | @turn log r r' first rest work turn before hturn hafter ih =>
    have hr' : r' = (r.after first rest turn).1 := congrArg Prod.fst hafter
    have hwork : work = (r.after first rest turn).2 := congrArg Prod.snd hafter
    rw [hr', hwork, Run.ends_after hturn (by decide), ih,
      introduced_mem_news hturn before.records, exists_turn_append]

theorem Turn.examined_of_mem_flatMap_links {l : Active × Match α}
    (h : l ∈ log.flatMap Turn.links) : l.1.node ∈ log.flatMap Turn.examined := by
  obtain ⟨turn, hturn, hl⟩ := List.mem_flatMap.mp h
  exact List.mem_flatMap.mpr ⟨turn, hturn, mem_examined.mpr ⟨_, origin_of_mem_links hl, rfl⟩⟩

theorem Turn.examined_of_introduces {turn : Turn α} {node : Int}
    (h : turn.Introduces seed log node) : ∃ i : Nat, turn.examined = [i] ∧ (i : Int) = node := by
  cases turn with
  | ended | cut | lost | postponed => cases h
  | fresh a xs | followed a xs | resolved a xs => exact ⟨a.node, rfl, h.1⟩

/-- **An introduced version has an edge exactly if its file was new and all its matches in
other files were versions that the walk knew before.** -/
theorem Replay.introduced_and_linked_iff (h : Replay seed log r work) {node : Int} :
    (r.Ends work node .introduced ∧ ∃ l ∈ log.flatMap Turn.links, (l.1.node : Int) = node) ↔
      Rejoins seed log node := by
  rw [h.introduced_iff]
  constructor
  · rintro ⟨⟨before, turn, after, rfl, hintro⟩, l, hl, hnode⟩
    obtain ⟨i, hi, hnode'⟩ := Turn.examined_of_introduces hintro
    obtain rfl : l.1.node = i := Int.ofNat.inj (hnode.trans hnode'.symm)
    have hnodup := h.examined_once.1.of_append_left
    rw [List.flatMap_append, List.flatMap_cons, hi] at hnodup
    -- a version is examined once, so its match was found in the turn that introduces it
    have hturn : l ∈ turn.links := by
      rw [List.flatMap_append, List.flatMap_cons] at hl
      rcases List.mem_append.mp hl with hl | hl
      · exact absurd List.mem_cons_self
          (hnodup.disjoint (Turn.examined_of_mem_flatMap_links hl))
      · rcases List.mem_append.mp hl with hl | hl
        · exact hl
        · exact absurd (Turn.examined_of_mem_flatMap_links hl)
            (List.nodup_cons.mp hnodup.of_append_right).1
    cases turn with
    | ended | cut | lost | postponed => cases hintro
    | followed a xs | resolved a xs =>
      exact nomatch hintro.2 _ (Finding.mem_links.mp hturn).2
    | fresh a xs =>
      have hm := (Finding.mem_links.mp hturn).2
      exact ⟨before, a, xs, after, rfl, hintro.1, ⟨l.2, hm⟩, hintro.2⟩
  · rintro ⟨before, a, xs, after, rfl, hnode, ⟨m, hm⟩, hknown⟩
    refine ⟨⟨before, .fresh a xs, after, rfl, hnode, hknown⟩, (a, m), ?_, hnode⟩
    rw [List.flatMap_append, List.flatMap_cons]
    refine List.mem_append_right _ (List.mem_append_left _ ?_)
    exact Finding.mem_links.mpr ⟨rfl, hm⟩

/-! ### Histories -/

/-- **Where an introduction is false.**  In the history that a walk tells, a version that is
said to be introduced has no edge to an earlier one, except where the walk met a new file
and every match of it elsewhere was a version that was known before. -/
theorem introduced_iff_rejoins [Score α] {w : Walker σ α} {fuel : Nat} {commit : Commit}
    {path : String} {m : Model} {e : Element} {x x' : Session σ} {h : History α}
    (hh : w.history fuel commit path m e x = (.ok h, x')) (node : Int) :
    (.introduced ∈ h.reasonsAt node → h.outgoing node = []) ↔
      ¬ Rejoins ⟨0, commit, path, m, e⟩ (w.logOf fuel ⟨0, commit, path, m, e⟩ x) node := by
  obtain ⟨s, rfl, hreplay⟩ := Walker.replay_of_history hh
  have hreasons : .introduced ∈ s.run.toHistory.reasonsAt node ↔
      s.run.graph.Ends [] node .introduced := Run.mem_reasonsAt_toHistory (r := s.run.graph)
  have hedges : s.run.toHistory.outgoing node = [] ↔ _ := hreplay.records.outgoing
  rw [← hreplay.introduced_and_linked_iff, hreasons, hedges, not_and]

/-- Two parents of a merge add a file with a function that their parent has in another one. -/
def addedTwice : Archive :=
  let f := "def f(a):\n    return a + 1\n".toUTF8.toList
  { commits := [
      { id := "r", files := [("y.py", f)], committed := 1 },
      { id := "a", parents := ["r"], files := [("x.py", f)], committed := 2 },
      { id := "b", parents := ["r"], files := [("x.py", f)], committed := 3 },
      { id := "m", parents := ["a", "b"], files := [("x.py", f)], committed := 4 }]
    head := "m" }

/-- The second of the two is said to be introduced, with an edge to the common parent. -/
theorem addedTwice_tells : (addedTwice.tracker "x.py" (.methodAt "f" 1)).tells ⟨addedTwice, {}, []⟩
    (fun h => h.reasonsAt 2 = [.introduced] ∧ (h.outgoing 2).map (·.target) = [3]) = true := by
  decide +kernel

theorem introduced_iff_rejoins_addedTwice : ∃ fuel commit m e x x' h,
    (addedTwice.tracker "x.py" (.methodAt "f" 1)).walker.history fuel commit "x.py" m e x
      = (.ok h, x') ∧
    ∀ node, (.introduced ∈ h.reasonsAt node → h.outgoing node = []) ↔
      ¬ Rejoins ⟨0, commit, "x.py", m, e⟩
        ((addedTwice.tracker "x.py" (.methodAt "f" 1)).walker.logOf fuel
          ⟨0, commit, "x.py", m, e⟩ x) node := by
  obtain ⟨h, x', ht, -⟩ := Tracker.exists_of_tells addedTwice_tells
  obtain ⟨commit, m, e, x, -, hh⟩ := Tracker.history_of_track ht
  exact ⟨_, commit, m, e, x, x', h, hh, introduced_iff_rejoins hh⟩

theorem not_introduced_without_edge : ¬ ∀ h x',
    (addedTwice.tracker "x.py" (.methodAt "f" 1)).track ⟨addedTwice, {}, []⟩ = (.ok h, x') →
      ∀ node, .introduced ∈ h.reasonsAt node → h.outgoing node = [] := by
  intro hclaim
  obtain ⟨h, x', ht, hfacts⟩ := Tracker.exists_of_tells addedTwice_tells
  obtain ⟨hreasons, hedges⟩ := of_decide_eq_true hfacts
  have hnone := hclaim h x' ht 2 (by rw [hreasons]; exact List.mem_singleton.mpr rfl)
  rw [hnone] at hedges
  cases hedges

end Lineage
