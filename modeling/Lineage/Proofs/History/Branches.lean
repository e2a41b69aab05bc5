import Lineage.Proofs.History.Versions

/-! # The branches of a walk

What a turn puts on the work list, and at which nodes branches have ended or are about
to end.  A turn adds the branches that its matches open, one after the other
(`Run.openAll`), the failures of its findings, and perhaps an introduction; the end of a
branch on the work list stays an end when it is recorded (`ends_after`).  No version is
examined for its parents twice (`Replay.examined_once`).
-/
namespace Lineage

namespace Branch

/-- The version of a branch that is to be expanded. -/
def active? : Branch → Option Active
  | active a => some a
  | branching _ _ | terminated _ => none

/-- The version of a branch that is still to be examined for its parents. -/
def open? : Branch → Option Active
  | active a | branching a _ => some a
  | terminated _ => none

end Branch

/-- The versions of a work list that are still to be examined. -/
def openNodes (work : List Branch) : List Nat := (work.filterMap Branch.open?).map Active.node

theorem openNodes_append (bs bs' : List Branch) :
    openNodes (bs ++ bs') = openNodes bs ++ openNodes bs' := by
  rw [openNodes, List.filterMap_append, List.map_append]
  rfl

theorem openNodes_cons {first : Branch} {a : Active} (h : first.open? = some a)
    (rest : List Branch) : openNodes (first :: rest) = a.node :: openNodes rest := by
  rw [openNodes, List.filterMap_cons_some h]
  rfl

theorem mem_openNodes {work : List Branch} {i : Nat} :
    i ∈ openNodes work ↔ ∃ b ∈ work, ∃ a, b.open? = some a ∧ a.node = i := by
  unfold openNodes
  rw [List.mem_map]
  constructor
  · rintro ⟨a, ha, hnode⟩
    obtain ⟨b, hb, hopen⟩ := List.mem_filterMap.mp ha
    exact ⟨b, hb, a, hopen, hnode⟩
  · rintro ⟨b, hb, a, hopen, hnode⟩
    exact ⟨a, List.mem_filterMap.mpr ⟨b, hb, hopen⟩, hnode⟩

/-- The version whose parents a turn has examined for good. -/
def Turn.examined {α : Type} : Turn α → List Nat
  | .lost a _ | .fresh a _ | .followed a _ | .resolved a _ => [a.node]
  | .ended _ | .cut | .postponed _ _ => []

/-- The version that a turn expands. -/
def Turn.expanded {α : Type} : Turn α → List Active
  | .lost a _ | .fresh a _ | .followed a _ | .postponed a _ => [a]
  | .ended _ | .cut | .resolved _ _ => []

/-- The version that a turn has examined for good. -/
def Turn.origin? {α : Type} : Turn α → Option Active
  | .lost a _ | .fresh a _ | .followed a _ | .resolved a _ => some a
  | .ended _ | .cut | .postponed _ _ => none

theorem Turn.mem_examined {α : Type} {turn : Turn α} {i : Nat} :
    i ∈ turn.examined ↔ ∃ a, turn.origin? = some a ∧ a.node = i := by
  cases turn with
  | ended | cut | postponed => exact iff_of_false List.not_mem_nil fun ⟨_, h, _⟩ => nomatch h
  | lost a _ | fresh a _ | followed a _ | resolved a _ =>
    refine List.mem_singleton.trans ⟨fun h => ⟨a, rfl, h.symm⟩, ?_⟩
    rintro ⟨_, h, hi⟩
    cases h
    exact hi.symm

theorem Turn.origin_of_mem_links {α : Type} {turn : Turn α} {l : Active × Match α}
    (h : l ∈ turn.links) : turn.origin? = some l.1 := by
  cases turn with
  | ended | cut | lost | postponed => cases h
  | fresh a xs | followed a xs | resolved a xs =>
    obtain ⟨m, -, rfl⟩ := List.mem_map.mp h
    rfl

/-- A turn expands the version of the first branch. -/
theorem Turn.Concerns.active_of_expanded {α : Type} {first : Branch} {turn : Turn α} {a : Active}
    (h : turn.Concerns first) (ha : a ∈ turn.expanded) : first = .active a := by
  cases h with
  | ended | cut | resolved => cases ha
  | lost | fresh | followed | postponed => rw [List.mem_singleton.mp ha]

/-- A turn that does not cut the walk expands the version of an active branch. -/
theorem Turn.Concerns.length_expanded {α : Type} {first : Branch} {turn : Turn α}
    (h : turn.Concerns first) (hcut : turn ≠ .cut) :
    turn.expanded.length = if first.active?.isSome then 1 else 0 := by
  cases h with
  | cut => exact absurd rfl hcut
  | ended | lost | fresh | followed | postponed | resolved => rfl

/-- A turn examines the version of the first branch. -/
theorem Turn.Concerns.open_of_origin {α : Type} {first : Branch} {turn : Turn α} {a : Active}
    (h : turn.Concerns first) (ha : turn.origin? = some a) : first.open? = some a := by
  cases h with
  | ended | cut | postponed => cases ha
  | lost | fresh | followed | resolved => exact ha

/-- Matches are found for the version of the first branch, and are of its kind. -/
theorem Turn.Concerns.open_first {α : Type} {first : Branch} {turn : Turn α}
    (h : turn.Concerns first) {l : Active × Match α} (hl : l ∈ turn.links) :
    first.open? = some l.1 ∧ l.2.element.kind = l.1.element.kind := by
  cases h with
  | ended | cut | lost | postponed => cases hl
  | fresh hfits _ | followed hfits | resolved hfits =>
    obtain ⟨rfl, hm⟩ := Finding.mem_links.mp hl
    exact ⟨rfl, hfits _ hm⟩

theorem Turn.Concerns.open_of_examined {α : Type} {first : Branch} {turn : Turn α}
    (h : turn.Concerns first) (hexamined : turn.examined ≠ []) :
    ∃ a, first.open? = some a ∧ turn.examined = [a.node] := by
  cases h with
  | ended | cut | postponed => exact absurd rfl hexamined
  | lost | fresh | followed | resolved => exact ⟨_, rfl, rfl⟩

namespace Run
variable {α : Type} (r : Run α) (a : Active)

/-- The branches that matches open which are recorded one after the other. -/
def openAll : Run α → List (Active × Match α) → List Branch
  | _, [] => []
  | r, l :: ls => r.opened l.2 ++ (r.link l.1 l.2).openAll ls

/-- The branches that a turn puts at the end of the work list. -/
def news : Turn α → List Branch
  | .ended _ | .cut => []
  | .lost a f => [.terminated ⟨a.node, .repositoryError, some a.commit.id, some f.message⟩]
  | .fresh a xs => orIntroduced a ((r.resolveAll a xs).flatMap Resolution.branches)
  | .followed a xs | .resolved a xs => Walker.settle a (r.resolveAll a xs)
  | .postponed a vs => [.branching a vs]

theorem after_work {first : Branch} (rest : List Branch) {turn : Turn α}
    (h : turn.Concerns first) :
    (r.after first rest turn).2 = rest ++ r.news turn ∨
      (r.after first rest turn).2 = [] ∧ ∃ a, first = .active a ∧ turn = .cut := by
  cases h with
  | ended t => exact .inl (List.append_nil rest).symm
  | cut a => exact .inr ⟨rfl, a, rfl, rfl⟩
  | lost | fresh | followed | postponed | resolved => exact .inl rfl

/-! ### What a turn adds -/

theorem mem_branches {xs : List (Finding α)} {b : Branch} :
    b ∈ (r.resolveAll a xs).flatMap Resolution.branches ↔
      (∃ t, .failed t ∈ xs ∧ b = .terminated t) ∨
        b ∈ r.openAll ((xs.filterMap Finding.match?).map (a, ·)) := by
  induction xs generalizing r with
  | nil => simp [resolveAll, openAll]
  | cons x xs ih =>
    rw [resolveAll, List.flatMap_cons, List.mem_append, ih]
    cases x with
    | failed t =>
      simp only [resolve, Resolution.branches, List.mem_cons, List.not_mem_nil, or_false]
      constructor
      · rintro (rfl | ⟨t', ht', rfl⟩ | h)
        · exact .inl ⟨t, .inl rfl, rfl⟩
        · exact .inl ⟨t', .inr ht', rfl⟩
        · exact .inr h
      · rintro (⟨t', ht' | ht', rfl⟩ | h)
        · cases ht'
          exact .inl rfl
        · exact .inr (.inl ⟨t', ht', rfl⟩)
        · exact .inr (.inr h)
    | found m =>
      have hopen : b ∈ r.openAll (((.found m :: xs).filterMap Finding.match?).map (a, ·)) ↔
          b ∈ r.opened m ∨ b ∈ (r.link a m).openAll ((xs.filterMap Finding.match?).map (a, ·)) :=
        List.mem_append
      rw [hopen]
      simp only [resolve, Resolution.branches, absorb, List.mem_cons, reduceCtorEq, false_or]
      exact or_left_comm
    | absent =>
      simp only [resolve, Resolution.branches, absorb, List.not_mem_nil, false_or, List.mem_cons,
        reduceCtorEq]
      exact Iff.rfl

theorem reason_of_mem_opened {r : Run α} {m : Match α} {t : Termination}
    (h : .terminated t ∈ r.opened m) : t.reason = .extracted := by
  unfold opened at h
  split at h
  · cases h
  · split at h
    · obtain rfl := Branch.terminated.inj (List.mem_singleton.mp h)
      rfl
    · exact nomatch List.mem_singleton.mp h

/-- The branches that matches open end at extractions only. -/
theorem reason_of_mem_openAll {r : Run α} {ls : List (Active × Match α)} {t : Termination}
    (h : .terminated t ∈ r.openAll ls) : t.reason = .extracted := by
  induction ls generalizing r with
  | nil => cases h
  | cons l ls ih =>
    rcases List.mem_append.mp h with h | h
    · exact reason_of_mem_opened h
    · exact ih h

theorem mem_orIntroduced_of_ne {bs : List Branch} {b : Branch}
    (hb : b ≠ .terminated ⟨a.node, .introduced, none, none⟩) : b ∈ orIntroduced a bs ↔ b ∈ bs := by
  unfold orIntroduced
  split
  · rename_i hempty
    rw [List.isEmpty_iff.mp hempty]
    exact iff_of_false (fun h => hb (List.mem_singleton.mp h)) List.not_mem_nil
  · exact Iff.rfl

theorem mem_settle_of_ne {rs : List Resolution} {b : Branch}
    (hb : b ≠ .terminated ⟨a.node, .introduced, none, none⟩) :
    b ∈ Walker.settle a rs ↔ b ∈ rs.flatMap Resolution.branches := by
  unfold Walker.settle
  rw [List.mem_append]
  refine or_iff_left fun h => ?_
  split at h
  · exact hb (List.mem_singleton.mp h)
  · cases h

/-- What a list of findings leaves besides ends of branches is what its matches open. -/
theorem filterMap_branches {β : Type} (p : Branch → Option β)
    (hp : ∀ t, p (.terminated t) = none) (xs : List (Finding α)) :
    ((r.resolveAll a xs).flatMap Resolution.branches).filterMap p
      = (r.openAll ((xs.filterMap Finding.match?).map (a, ·))).filterMap p := by
  induction xs generalizing r with
  | nil => rfl
  | cons x xs ih =>
    rw [resolveAll, List.flatMap_cons, List.filterMap_append, ih]
    cases x with
    | failed t =>
      rw [resolve, Resolution.branches, List.filterMap_cons_none (hp t)]
      rfl
    | found m => exact List.filterMap_append.symm
    | absent => rfl

theorem filterMap_orIntroduced {β : Type} (p : Branch → Option β)
    (hp : ∀ t, p (.terminated t) = none) (bs : List Branch) :
    (orIntroduced a bs).filterMap p = bs.filterMap p := by
  unfold orIntroduced
  split
  · rename_i hempty
    rw [List.isEmpty_iff.mp hempty, List.filterMap_cons_none (hp _)]
  · rfl

theorem filterMap_settle {β : Type} (p : Branch → Option β)
    (hp : ∀ t, p (.terminated t) = none) (rs : List Resolution) :
    (Walker.settle a rs).filterMap p = (rs.flatMap Resolution.branches).filterMap p := by
  unfold Walker.settle
  rw [List.filterMap_append]
  split
  · rw [List.filterMap_cons_none (hp _), List.filterMap_nil, List.append_nil]
  · exact List.append_nil _

/-- What a turn adds besides ends of branches is what its matches open, and the version that
it postpones. -/
theorem filterMap_news {β : Type} (p : Branch → Option β)
    (hp : ∀ t, p (.terminated t) = none) (turn : Turn α)
    (hturn : ∀ a vs, turn = .postponed a vs → p (.branching a vs) = none) :
    (r.news turn).filterMap p = (r.openAll turn.links).filterMap p := by
  cases turn with
  | ended t | cut => rfl
  | lost a f => exact List.filterMap_cons_none (hp _)
  | fresh a xs => rw [news, filterMap_orIntroduced a p hp, filterMap_branches r a p hp]; rfl
  | followed a xs | resolved a xs =>
    rw [news, filterMap_settle a p hp, filterMap_branches r a p hp]
    rfl
  | postponed a vs => exact List.filterMap_cons_none (hturn a vs rfl)

/-- A turn expands the first version if there is one, and leaves the others and those that its
matches open. -/
theorem expanded_after {first : Branch} (rest : List Branch) {turn : Turn α}
    (hturn : turn.Concerns first) :
    (turn = .cut ∧ turn.expanded ++ (r.after first rest turn).2.filterMap Branch.active? = []) ∨
      turn.expanded ++ (r.after first rest turn).2.filterMap Branch.active?
        = (first :: rest).filterMap Branch.active?
          ++ (r.openAll turn.links).filterMap Branch.active? := by
  have hnews : (rest ++ r.news turn).filterMap Branch.active?
      = rest.filterMap Branch.active? ++ (r.openAll turn.links).filterMap Branch.active? := by
    rw [List.filterMap_append, r.filterMap_news Branch.active? (fun _ => rfl) turn fun _ _ _ => rfl]
  cases hturn with
  | cut a => exact .inl ⟨rfl, rfl⟩
  | ended t => exact .inr (List.append_nil (rest.filterMap Branch.active?)).symm
  | lost | fresh | followed | postponed => exact .inr (congrArg (_ :: ·) hnews)
  | resolved => exact .inr hnews

/-! ### Ends of branches -/

/-- A branch has ended at a node for a reason, or is about to. -/
def Ends (work : List Branch) (node : Int) (why : TerminationReason) : Prop :=
  (∃ t ∈ r.terminations, t.node = node ∧ t.reason = why) ∨
    ∃ t, .terminated t ∈ work ∧ t.node = node ∧ t.reason = why

variable {r} {a} {m : Match α} {node : Int} {why : TerminationReason}

theorem exists_finish {t : Termination} :
    (∃ u ∈ (r.finish t).terminations, u.node = node ∧ u.reason = why) ↔
      (∃ u ∈ r.terminations, u.node = node ∧ u.reason = why) ∨
        (t.node = node ∧ t.reason = why) := by
  unfold finish
  split
  · rename_i hended
    obtain ⟨u, hu, hsame⟩ := List.any_eq_true.mp hended
    obtain ⟨hnode, hwhy, -⟩ := of_decide_eq_true hsame
    refine ⟨.inl, fun h => h.elim id ?_⟩
    rintro ⟨rfl, rfl⟩
    exact ⟨u, hu, hnode, hwhy⟩
  · simp [terminate, or_and_right, exists_or]

theorem exists_foldl_finish {bs : List Branch} :
    (∃ u ∈ (bs.foldl (fun r b => r.finish b.cut) r).terminations, u.node = node ∧ u.reason = why) ↔
      (∃ u ∈ r.terminations, u.node = node ∧ u.reason = why) ∨
        ∃ b ∈ bs, b.cut.node = node ∧ b.cut.reason = why := by
  induction bs generalizing r with
  | nil => simp
  | cons b bs ih =>
    rw [List.foldl_cons, ih, exists_finish, or_assoc]
    simp

variable (r) (a) in
/-- Recording findings leaves all but the versions and changes alone. -/
theorem absorbAll_frame (xs : List (Finding α)) :
    (r.absorbAll a xs).terminations = r.terminations ∧
      (r.absorbAll a xs).budgetExceeded = r.budgetExceeded ∧
      (r.absorbAll a xs).report = r.report := by
  rw [absorbAll_eq]
  generalize (xs.filterMap Finding.match?).map (a, ·) = ls
  induction ls generalizing r with
  | nil => exact ⟨rfl, rfl, rfl⟩
  | cons l ls ih => exact ih (r.link l.1 l.2)

variable (r) in
theorem report_finish (t : Termination) :
    (r.finish t).report = r.report ∧ (r.finish t).budgetExceeded = r.budgetExceeded := by
  unfold finish
  split <;> exact ⟨rfl, rfl⟩

/-- Recording ends of branches leaves the report and the flag of the budget alone. -/
theorem report_foldl_finish (bs : List Branch) (r : Run α) :
    (bs.foldl (fun r b => r.finish b.cut) r).report = r.report ∧
      (bs.foldl (fun r b => r.finish b.cut) r).budgetExceeded = r.budgetExceeded := by
  induction bs generalizing r with
  | nil => exact ⟨rfl, rfl⟩
  | cons b bs ih =>
    obtain ⟨hreport, hflag⟩ := ih (r.finish b.cut)
    obtain ⟨hreport', hflag'⟩ := r.report_finish b.cut
    exact ⟨hreport.trans hreport', hflag.trans hflag'⟩

theorem exists_terminated_cons {t : Termination} {bs : List Branch} :
    (∃ u, Branch.terminated u ∈ .terminated t :: bs ∧ u.node = node ∧ u.reason = why) ↔
      (t.node = node ∧ t.reason = why) ∨
        ∃ u, .terminated u ∈ bs ∧ u.node = node ∧ u.reason = why := by
  simp [or_and_right, exists_or]

theorem exists_terminated_append {bs bs' : List Branch} :
    (∃ u, Branch.terminated u ∈ bs ++ bs' ∧ u.node = node ∧ u.reason = why) ↔
      (∃ u, .terminated u ∈ bs ∧ u.node = node ∧ u.reason = why) ∨
        ∃ u, .terminated u ∈ bs' ∧ u.node = node ∧ u.reason = why := by
  simp only [List.mem_append, or_and_right, exists_or]

variable (r) in
/-- The report lists commit and path of each version that is expanded. -/
theorem processing_after {first : Branch} (rest : List Branch) {turn : Turn α}
    (hturn : turn.Concerns first) : (r.after first rest turn).1.report.processing
      = r.report.processing ++ turn.expanded.map fun a => (a.commit.id, a.path) := by
  cases hturn with
  | cut a =>
    have hreport := (report_foldl_finish (.active a :: rest) { r with budgetExceeded := true }).1
    exact (congrArg Report.processing hreport).trans (List.append_nil _).symm
  | ended t =>
    exact (congrArg Report.processing (r.report_finish t).1).trans (List.append_nil _).symm
  | lost | postponed => rfl
  | @fresh a xs _ _ | @followed a xs _ =>
    exact congrArg (fun p : Report => p.processing ++ _) (r.absorbAll_frame a xs).2.2
  | @resolved a _ xs _ =>
    exact (congrArg Report.processing (r.absorbAll_frame a xs).2.2).trans (List.append_nil _).symm

variable (r) in
/-- The report counts each version that is expanded. -/
theorem commits_after {first : Branch} (rest : List Branch) {turn : Turn α}
    (hturn : turn.Concerns first) : (r.after first rest turn).1.report.commitsAnalysed
      = r.report.commitsAnalysed + turn.expanded.length := by
  cases hturn with
  | cut a =>
    have hreport := (report_foldl_finish (.active a :: rest) { r with budgetExceeded := true }).1
    exact (congrArg Report.commitsAnalysed hreport).trans (Int.add_zero _).symm
  | ended t =>
    exact (congrArg Report.commitsAnalysed (r.report_finish t).1).trans (Int.add_zero _).symm
  | lost | postponed => rfl
  | @fresh a xs _ _ | @followed a xs _ =>
    exact congrArg (fun p : Report => p.commitsAnalysed + 1) (r.absorbAll_frame a xs).2.2
  | @resolved a _ xs _ =>
    exact (congrArg Report.commitsAnalysed (r.absorbAll_frame a xs).2.2).trans
      (Int.add_zero _).symm

/-- Branches that the end of the budget cuts end for that reason, but those that were about
to end anyway. -/
theorem exists_cut {bs : List Branch} (hwhy : why ≠ .budgetExceeded) :
    (∃ b ∈ bs, b.cut.node = node ∧ b.cut.reason = why) ↔
      ∃ u, .terminated u ∈ bs ∧ u.node = node ∧ u.reason = why := by
  constructor
  · rintro ⟨b, hb, hnode, hreason⟩
    cases b with
    | terminated u => exact ⟨u, hb, hnode, hreason⟩
    | active a | branching a vs => exact absurd hreason.symm hwhy
  · rintro ⟨u, hu, hends⟩
    exact ⟨.terminated u, hu, hends⟩

/-- A turn keeps the ends of branches and adds those that it puts on the work list, unless
the budget is used up. -/
theorem ends_after {first : Branch} {rest : List Branch} {turn : Turn α}
    (hturn : turn.Concerns first) (hwhy : why ≠ .budgetExceeded) :
    (r.after first rest turn).1.Ends (r.after first rest turn).2 node why ↔
      r.Ends (first :: rest) node why ∨
        ∃ t, .terminated t ∈ r.news turn ∧ t.node = node ∧ t.reason = why := by
  have hopen : (∀ t, first ≠ .terminated t) →
      ((∃ u, .terminated u ∈ first :: rest ∧ u.node = node ∧ u.reason = why) ↔
        ∃ u, .terminated u ∈ rest ∧ u.node = node ∧ u.reason = why) := fun hfirst =>
    exists_congr fun u => and_congr_left fun _ =>
      List.mem_cons.trans (or_iff_right fun hu => hfirst u hu.symm)
  unfold Ends
  cases hturn with
  | ended t =>
    show (∃ u ∈ (r.finish t).terminations, _) ∨ _ ↔ _
    rw [exists_finish, exists_terminated_cons, or_assoc]
    exact (or_iff_left (fun ⟨u, hu, _⟩ => nomatch hu)).symm
  | cut a =>
    show (∃ u ∈ ((Branch.active a :: rest).foldl (fun (r : Run α) b => r.finish b.cut)
      { r with budgetExceeded := true }).terminations, _) ∨ _ ↔ _
    rw [exists_foldl_finish, exists_cut hwhy]
    exact Iff.rfl
  | lost a f | postponed a vs =>
    rw [hopen (fun _ h => nomatch h), or_assoc, ← exists_terminated_append]
    exact Iff.rfl
  | @fresh a xs _ _ | @followed a xs _ | @resolved a _ xs _ =>
    rw [hopen (fun _ h => nomatch h), or_assoc, ← exists_terminated_append,
      ← (r.absorbAll_frame a xs).1]
    exact Iff.rfl

/-- Once the work list is empty, the ends of branches are those of the history. -/
theorem mem_reasonsAt_toHistory : why ∈ r.toHistory.reasonsAt node ↔ r.Ends [] node why := by
  unfold History.reasonsAt Ends
  rw [List.mem_map]
  constructor
  · rintro ⟨t, ht, hwhy⟩
    obtain ⟨hmem, hnode⟩ := List.mem_filter.mp ht
    exact .inl ⟨t, hmem, of_decide_eq_true hnode, hwhy⟩
  · rintro (⟨t, hmem, hnode, hwhy⟩ | ⟨t, ht, _⟩)
    · exact ⟨t, List.mem_filter.mpr ⟨hmem, decide_eq_true hnode⟩, hwhy⟩
    · cases ht

/-! ### Versions that are opened -/

theorem nodes_link_length :
    (r.link a m).nodes.length = r.nodes.length + if (r.known? m).isSome then 0 else 1 := by
  show (r.nodesWith m).length = _
  cases hknown : r.known? m with
  | some i => rw [nodesWith_of_known hknown]; rfl
  | none => rw [nodesWith_of_new hknown, List.length_append]; rfl

/-- A match opens at most one version, the last of the nodes. -/
theorem open_opened :
    openNodes (r.opened m) = [] ∨
      openNodes (r.opened m) = [r.nodes.length] ∧
        (r.link a m).nodes.length = r.nodes.length + 1 := by
  rw [nodes_link_length]
  unfold opened place
  cases r.known? m with
  | some i => exact .inl rfl
  | none =>
    rw [if_neg (by simp)]
    split
    · exact .inl rfl
    · exact .inr ⟨rfl, rfl⟩

theorem nodes_linkAll_length (ls : List (Active × Match α)) :
    r.nodes.length ≤ (r.linkAll ls).nodes.length := by
  induction ls generalizing r with
  | nil => exact Nat.le_refl _
  | cons l ls ih =>
    refine Nat.le_trans ?_ (ih (r := r.link l.1 l.2))
    rw [nodes_link_length]
    exact Nat.le_add_right _ _

/-- The versions that matches open are new, and each is opened once. -/
theorem open_openAll (ls : List (Active × Match α)) :
    (openNodes (r.openAll ls)).Pairwise (· < ·) ∧ ∀ i ∈ openNodes (r.openAll ls),
        r.nodes.length ≤ i ∧ i < (r.linkAll ls).nodes.length := by
  induction ls generalizing r with
  | nil => exact ⟨List.Pairwise.nil, fun i hi => nomatch hi⟩
  | cons l ls ih =>
    obtain ⟨hpair, hbound⟩ := ih (r := r.link l.1 l.2)
    have hgrow := r.nodes_link_length (a := l.1) (m := l.2)
    have htotal := nodes_linkAll_length (r := r.link l.1 l.2) ls
    rw [openAll, openNodes_append]
    rcases r.open_opened (a := l.1) (m := l.2) with hnone | ⟨hone, hnew⟩
    · rw [hnone, List.nil_append]
      refine ⟨hpair, fun i hi => ?_⟩
      obtain ⟨hlow, hhigh⟩ := hbound i hi
      exact ⟨by omega, hhigh⟩
    · rw [hone, List.singleton_append]
      refine ⟨List.pairwise_cons.mpr ⟨fun i hi => ?_, hpair⟩, ?_⟩
      · obtain ⟨hlow, -⟩ := hbound i hi
        omega
      · rintro i (_ | ⟨_, hi⟩)
        · exact ⟨Nat.le_refl _, Nat.lt_of_lt_of_le (by omega) htotal⟩
        · obtain ⟨hlow, hhigh⟩ := hbound i hi
          exact ⟨by omega, hhigh⟩

end Run

variable {α : Type} {seed : Active} {log : List (Turn α)} {r : Run α} {work : List Branch}

/-- The versions that a turn leaves to be examined. -/
theorem Run.openNodes_news (r : Run α) (turn : Turn α)
    (hturn : ∀ a vs, turn ≠ .postponed a vs) :
    openNodes (r.news turn) = openNodes (r.openAll turn.links) :=
  congrArg (List.map Active.node)
    (r.filterMap_news Branch.open? (fun _ => rfl) turn fun a vs h => absurd h (hturn a vs))

theorem Run.nodes_after (r : Run α) (first : Branch) (rest : List Branch) (turn : Turn α) :
    (r.after first rest turn).1.nodes.length = (r.linkAll turn.links).nodes.length := by
  have hbare := congrArg Run.nodes (r.bare_after first rest turn)
  rw [← Run.bare_linkAll] at hbare
  exact congrArg List.length hbare

/-- A turn examines the first version or puts it off, and leaves the others and the ones
that its matches open. -/
theorem Run.examined_after (r : Run α) {first : Branch} (rest : List Branch) {turn : Turn α}
    (hturn : turn.Concerns first) :
    (turn = .cut ∧ turn.examined ++ openNodes (r.after first rest turn).2 = []) ∨
      (turn.examined ++ openNodes (r.after first rest turn).2).Perm
        (openNodes (first :: rest) ++ openNodes (r.openAll turn.links)) := by
  have hnews : (∀ a vs, turn ≠ .postponed a vs) → openNodes (rest ++ r.news turn)
      = openNodes rest ++ openNodes (r.openAll turn.links) := fun h => by
    rw [openNodes_append, r.openNodes_news turn h]
  cases hturn with
  | cut a => exact .inl ⟨rfl, rfl⟩
  | ended t => exact .inr (List.Perm.of_eq (List.append_nil (openNodes rest)).symm)
  | lost a _ | @fresh a _ _ _ | @followed a _ _ | @resolved a _ _ _ =>
    exact .inr (List.Perm.of_eq (congrArg (a.node :: ·) (hnews fun _ _ h => nomatch h)))
  | postponed a vs =>
    right
    show (openNodes (rest ++ [.branching a vs])).Perm (a.node :: openNodes rest ++ [])
    rw [openNodes_append, List.append_nil]
    exact List.perm_append_singleton a.node (openNodes rest)

/-- **No version is examined twice**: the versions that were examined and those that are
still to be are distinct. -/
theorem Replay.examined_once (h : Replay seed log r work) :
    (log.flatMap Turn.examined ++ openNodes work).Nodup ∧
      ∀ i ∈ log.flatMap Turn.examined ++ openNodes work, i < r.nodes.length := by
  induction h with
  | seed hseed =>
    refine ⟨List.nodup_singleton _, fun i hi => ?_⟩
    rw [List.mem_singleton.mp hi, hseed]
    exact Nat.zero_lt_one
  | @turn log r r' first rest work turn before hturn hafter ih =>
    obtain ⟨hnodup, hbound⟩ := ih
    have hr' : r' = (r.after first rest turn).1 := congrArg Prod.fst hafter
    have hwork : work = (r.after first rest turn).2 := congrArg Prod.snd hafter
    -- what a turn opens is numbered from the old number of nodes on, so it meets nothing older
    obtain ⟨hpair, hnew⟩ := Run.open_openAll (r := r) turn.links
    have hgrow := Run.nodes_linkAll_length (r := r) turn.links
    rw [List.flatMap_append, List.flatMap_singleton, hr', hwork, Run.nodes_after, List.append_assoc]
    rcases r.examined_after rest hturn with ⟨-, hnone⟩ | hperm
    · rw [hnone, List.append_nil]
      exact ⟨hnodup.of_append_left, fun i hi =>
        Nat.lt_of_lt_of_le (hbound i (List.mem_append_left _ hi)) hgrow⟩
    · have hall := hperm.append_left (log.flatMap Turn.examined)
      rw [← List.append_assoc (log.flatMap Turn.examined) (openNodes (first :: rest))] at hall
      refine ⟨hall.nodup_iff.mpr (hnodup.append (hpair.imp Nat.ne_of_lt) fun i hold hi => ?_),
        fun i hi => ?_⟩
      · have := hbound i hold
        have := (hnew i hi).1
        omega
      · rcases List.mem_append.mp (hall.mem_iff.mp hi) with hold | hi
        · exact Nat.lt_of_lt_of_le (hbound i hold) hgrow
        · exact (hnew i hi).2

end Lineage
