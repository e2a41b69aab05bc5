import Lineage.Proofs.History.Walks

/-! # Where a history stops at an extraction

Whether a walk stops at a version is decided once, by the match that reaches it first.
The edge of that match is the first one that enters the node, and no later edge changes
what was decided: a node carries an extraction exactly if its first edge is one
(`Replay.extracted_iff`), and all other nodes are expanded, in the order of their numbers
(`Replay.expanded_in_order`).  So the branch of a later edge of another kind is cut, and
only of such an edge (`cut_iff_entered_by_extraction`).
-/
namespace Lineage
variable {σ α : Type}

namespace Run
variable {r : Run α} {seed a : Active} {m : Match α} {ls : List (Active × Match α)} {node : Int}

/-- The first edge that enters a node. -/
def entrance? (r : Run α) (node : Int) : Option (ChangeEdge α) := r.edges.find? (·.target = node)

/-- A history stops at a node that an extraction entered first. -/
def stopsAt (r : Run α) (node : Int) : Bool :=
  r.kind.stopsAtExtraction && decide (0 < node) && (r.entrance? node).any (·.kind = .extract)

/-! ### The first edge -/

theorem entrance?_link_of_entered (h : (r.entrance? node).isSome) :
    (r.link a m).entrance? node = r.entrance? node := by
  obtain ⟨e, he⟩ := Option.isSome_iff_exists.mp h
  show (r.edgesWith a m).find? _ = _
  unfold edgesWith
  split
  · rfl
  · rw [List.find?_append, show r.edges.find? (·.target = node) = some e from he, Option.some_or]
    exact he.symm

theorem entrance?_link_of_ne (h : node ≠ r.place m) :
    (r.link a m).entrance? node = r.entrance? node := by
  show (r.edgesWith a m).find? _ = _
  unfold edgesWith
  split
  · rfl
  · have hlast : [r.edgeTo a m].find? (·.target = node) = none :=
      List.find?_eq_none.mpr fun e he htarget => by
        obtain rfl := List.mem_singleton.mp he
        exact h (of_decide_eq_true htarget).symm
    rw [List.find?_append, hlast, Option.or_none]
    rfl

/-- A node that is known has been entered, unless it is the seed. -/
theorem Records.entrance?_isSome (h : Records seed ls r) {n : HistoryNode} (hn : n ∈ r.nodes)
    (hseed : n.index ≠ 0) : (r.entrance? n.index).isSome := by
  obtain ⟨e, he, htarget⟩ := h.entered hn hseed
  exact List.find?_isSome.mpr ⟨e, he, decide_eq_true htarget⟩

/-- Edges lead to nodes that are there. -/
theorem Records.entrance?_eq_none (h : Records seed ls r) (hnode : (r.nodes.length : Int) ≤ node) :
    r.entrance? node = none := by
  refine List.find?_eq_none.mpr fun e he htarget => ?_
  obtain ⟨l, -, -, n, hn, -, hindex⟩ := h.edges e he
  obtain ⟨i, hi, heq, -⟩ := h.index_lt hn
  have htarget := of_decide_eq_true htarget
  omega

theorem Records.entrance?_link_new (h : Records seed ls r) (hnew : r.known? m = none) :
    (r.link a m).entrance? r.nodes.length = some (r.edgeTo a m) := by
  have hplace : r.place m = r.nodes.length := by rw [place, hnew]; rfl
  have hnone := h.entrance?_eq_none (Int.le_refl (r.nodes.length : Int))
  have hedges : r.edgesWith a m = r.edges ++ [r.edgeTo a m] := by
    refine if_neg fun hany => ?_
    obtain ⟨e, he, hends⟩ := List.any_eq_true.mp hany
    have htarget : e.target = r.nodes.length := by
      rw [← hplace]
      exact (of_decide_eq_true hends).2
    exact List.find?_eq_none.mp hnone e he (decide_eq_true htarget)
  show (r.edgesWith a m).find? _ = _
  rw [hedges, List.find?_append, show r.edges.find? _ = none from hnone, Option.none_or]
  exact List.find?_cons_of_pos (decide_eq_true (congrArg Int.ofNat hplace))

/-! ### What a match decides -/

/-- A match decides about no node that was there before. -/
theorem Records.stopsAt_link_old (h : Records seed ls r) {i : Nat} (hi : i < r.nodes.length) :
    (r.link a m).stopsAt i = r.stopsAt i := by
  unfold stopsAt
  by_cases hzero : i = 0
  · subst hzero
    simp
  · -- every node but the seed was entered when it was made, and the first edge stays first
    have hmem := List.getElem_mem hi
    have hindex := h.index i _ (List.getElem?_eq_getElem hi)
    have hentered := h.entrance?_isSome hmem (by omega)
    rw [hindex] at hentered
    rw [entrance?_link_of_entered hentered]
    rfl

/-- A match that reaches a version first decides whether the history stops there. -/
theorem Records.stopsAt_link_new (h : Records seed ls r) (hnew : r.known? m = none) :
    (r.link a m).stopsAt r.nodes.length
      = (m.kind = .extract && r.kind.stopsAtExtraction) := by
  obtain ⟨n, hn, -⟩ := h.seeded
  have hlen := List.length_pos_of_mem hn
  have hpos : (0 : Int) < r.nodes.length := by omega
  unfold stopsAt
  rw [h.entrance?_link_new hnew, decide_eq_true hpos, Bool.and_true, Bool.and_comm]
  rfl

theorem Records.stopsAt_eq_false (h : Records seed ls r) (hnode : (r.nodes.length : Int) ≤ node) :
    r.stopsAt node = false := by
  rw [stopsAt, h.entrance?_eq_none hnode, Option.any_none, Bool.and_false]

/-- A match that is not new opens nothing, one that is new ends its branch or opens it. -/
theorem exists_terminated_opened :
    (∃ t, .terminated t ∈ r.opened m ∧ t.node = node) ↔
      r.known? m = none ∧ node = r.place m ∧
        (m.kind = .extract && r.kind.stopsAtExtraction) = true := by
  unfold opened
  cases hknown : r.known? m with
  | some i => exact iff_of_false (fun ⟨t, ht, _⟩ => nomatch ht) (fun ⟨h, _⟩ => nomatch h)
  | none =>
    rw [if_neg (by simp)]
    by_cases hstop : (m.kind = .extract && r.kind.stopsAtExtraction) = true
    · rw [if_pos hstop]
      constructor
      · rintro ⟨t, ht, hnode⟩
        obtain rfl := Branch.terminated.inj (List.mem_singleton.mp ht)
        exact ⟨rfl, hnode.symm, hstop⟩
      · rintro ⟨-, hnode, -⟩
        exact ⟨_, List.mem_singleton.mpr rfl, hnode.symm⟩
    · rw [if_neg hstop]
      exact iff_of_false (fun ⟨t, ht, _⟩ => nomatch List.mem_singleton.mp ht)
        fun ⟨_, _, h⟩ => hstop h

/-- A match stops the history at the nodes at which it ends a branch. -/
theorem Records.stopsAt_link (h : Records seed ls r) :
    (r.link a m).stopsAt node = true ↔
      r.stopsAt node = true ∨ ∃ t, .terminated t ∈ r.opened m ∧ t.node = node := by
  rw [exists_terminated_opened]
  by_cases hnode : node = r.place m
  · subst hnode
    cases hknown : r.known? m with
    | some i =>
      obtain ⟨n, hn, -⟩ := nodeOf_known? hknown
      have hplace : r.place m = i := by rw [place, hknown]; rfl
      rw [hplace, h.stopsAt_link_old (List.getElem?_eq_some_iff.mp hn).1]
      exact (or_iff_left fun hnew => absurd hnew.1 (Option.some_ne_none i)).symm
    | none =>
      have hplace : r.place m = r.nodes.length := by rw [place, hknown]; rfl
      rw [hplace, h.stopsAt_link_new hknown, h.stopsAt_eq_false (Int.le_refl _)]
      simp
  · have hsame : (r.link a m).stopsAt node = r.stopsAt node := by
      unfold stopsAt
      rw [entrance?_link_of_ne hnode]
      rfl
    rw [hsame]
    exact (or_iff_left fun hnew => hnode hnew.2.1).symm

/-- Matches stop the history at the nodes at which they end a branch. -/
theorem Records.stopsAt_linkAll (h : Records seed ls r) (more : List (Active × Match α)) :
    (r.linkAll more).stopsAt node = true ↔
      r.stopsAt node = true ∨ ∃ t, .terminated t ∈ r.openAll more ∧ t.node = node := by
  induction more generalizing ls r with
  | nil => exact (or_iff_left fun ⟨t, ht, _⟩ => nomatch ht).symm
  | cons l more ih =>
    show ((r.link l.1 l.2).linkAll more).stopsAt node = true ↔ _
    rw [ih (h.link (a := l.1) (m := l.2)), h.stopsAt_link, openAll, or_assoc]
    simp only [List.mem_append, or_and_right, exists_or]

/-! ### What is expanded -/

/-- The places of versions that are expanded or to be expanded: those at which the history
does not stop. -/
def passed (r : Run α) : List (String × String) :=
  (r.nodes.filter fun n => !r.stopsAt n.index).map fun n => (n.commitId, n.path)

/-- The places of the versions of a work list that are to be expanded. -/
def activePlaces (work : List Branch) : List (String × String) :=
  (work.filterMap Branch.active?).map fun a => (a.commit.id, a.path)

theorem activePlaces_append (bs bs' : List Branch) :
    activePlaces (bs ++ bs') = activePlaces bs ++ activePlaces bs' := by
  rw [activePlaces, List.filterMap_append, List.map_append]
  rfl

/-- A match lets the walk pass the versions that it opens. -/
theorem Records.passed_link (h : Records seed ls r) :
    (r.link a m).passed = r.passed ++ activePlaces (r.opened m) := by
  have hold : r.nodes.filter (fun n => !(r.link a m).stopsAt n.index)
      = r.nodes.filter fun n => !r.stopsAt n.index := by
    refine List.filter_congr fun n hn => ?_
    obtain ⟨i, hi, hindex, -⟩ := h.index_lt hn
    rw [hindex, h.stopsAt_link_old hi]
  show ((r.nodesWith m).filter fun n => !(r.link a m).stopsAt n.index).map _ = _
  unfold opened
  cases hknown : r.known? m with
  | some i =>
    rw [nodesWith_of_known hknown, hold]
    exact (List.append_nil _).symm
  | none =>
    rw [nodesWith_of_new hknown, List.filter_append, hold, List.map_append, if_neg (by simp)]
    refine congrArg (r.passed ++ ·) ?_
    have hnew : (r.link a m).stopsAt (r.newNode m.commit m.path m.element).index = _ :=
      h.stopsAt_link_new hknown
    rw [List.filter_singleton, hnew]
    by_cases hstop : (m.kind = .extract && r.kind.stopsAtExtraction) = true
    · rw [if_pos hstop, hstop]
      rfl
    · rw [if_neg hstop, Bool.eq_false_iff.mpr hstop]
      rfl

theorem Records.passed_linkAll (h : Records seed ls r) (more : List (Active × Match α)) :
    (r.linkAll more).passed = r.passed ++ activePlaces (r.openAll more) := by
  induction more generalizing ls r with
  | nil => exact (List.append_nil _).symm
  | cons l more ih =>
    show ((r.link l.1 l.2).linkAll more).passed = _
    rw [ih (h.link (a := l.1) (m := l.2)), h.passed_link, openAll, activePlaces_append,
      List.append_assoc]

end Run
/-! ### What a walk extracts and expands -/

variable {seed : Active} {log : List (Turn α)} {r : Run α} {work : List Branch} {node : Int}

theorem extracted_mem_branches {a : Active} {xs : List (Finding α)} (hfits : ∀ x ∈ xs, x.Fits a)
    {t : Termination} :
    (.terminated t ∈ (r.resolveAll a xs).flatMap Resolution.branches ∧ t.reason = .extracted) ↔
      .terminated t ∈ r.openAll ((xs.filterMap Finding.match?).map (a, ·)) := by
  rw [r.mem_branches a]
  constructor
  · rintro ⟨⟨u, hu, heq⟩ | h, hreason⟩
    · obtain rfl := Branch.terminated.inj heq
      rcases (hfits _ hu).2 with h | h <;> rw [h] at hreason <;> cases hreason
    · exact h
  · exact fun h => ⟨.inr h, Run.reason_of_mem_openAll h⟩

/-- The branches that a turn adds end at an extraction where its matches end them. -/
theorem extracted_mem_news {first : Branch} {turn : Turn α} (hturn : turn.Concerns first) :
    (∃ t, .terminated t ∈ r.news turn ∧ t.node = node ∧ t.reason = .extracted) ↔
      ∃ t, .terminated t ∈ r.openAll turn.links ∧ t.node = node := by
  have hother : ∀ {t : Termination} {a : Active}, t.reason = .extracted →
      Branch.terminated t ≠ .terminated ⟨a.node, .introduced, none, none⟩ := by
    intro t a hreason heq
    obtain rfl := Branch.terminated.inj heq
    cases hreason
  refine exists_congr fun t => ?_
  rw [and_comm (a := t.node = node), ← and_assoc]
  refine and_congr_left fun _ => ?_
  cases hturn with
  | ended | cut => exact iff_of_false (fun ⟨h, _⟩ => nomatch h) (fun h => nomatch h)
  | lost a f =>
    refine iff_of_false (fun ⟨h, hreason⟩ => ?_) (fun h => nomatch h)
    obtain rfl := Branch.terminated.inj (List.mem_singleton.mp h)
    cases hreason
  | postponed a vs =>
    exact iff_of_false (fun ⟨h, _⟩ => nomatch List.mem_singleton.mp h) (fun h => nomatch h)
  | fresh hfits _ =>
    refine Iff.trans ?_ (extracted_mem_branches hfits)
    exact and_congr_left fun hreason => Run.mem_orIntroduced_of_ne _ (hother hreason)
  | followed hfits | resolved hfits =>
    refine Iff.trans ?_ (extracted_mem_branches hfits)
    exact and_congr_left fun hreason => Run.mem_settle_of_ne _ (hother hreason)

theorem Run.stopsAt_after (r : Run α) (first : Branch) (rest : List Branch) (turn : Turn α)
    (node : Int) :
    (r.after first rest turn).1.stopsAt node = (r.linkAll turn.links).stopsAt node := by
  show (r.after first rest turn).1.bare.stopsAt node = (r.linkAll turn.links).bare.stopsAt node
  rw [r.bare_after, ← Run.bare_linkAll]

theorem Run.passed_after (r : Run α) (first : Branch) (rest : List Branch) (turn : Turn α) :
    (r.after first rest turn).1.passed = (r.linkAll turn.links).passed := by
  show (r.after first rest turn).1.bare.passed = (r.linkAll turn.links).bare.passed
  rw [r.bare_after, ← Run.bare_linkAll]

/-- **A branch ends at an extraction where the first edge is one.** -/
theorem Replay.extracted_iff (h : Replay seed log r work) :
    r.Ends work node .extracted ↔ r.stopsAt node = true := by
  induction h with
  | seed _ =>
    refine iff_of_false ?_ ?_
    · rintro (⟨t, ht, _⟩ | ⟨t, ht, _⟩)
      · cases ht
      · exact nomatch List.mem_singleton.mp ht
    · exact Bool.eq_false_iff.mp (Bool.and_false _)
  | @turn log r r' first rest work turn before hturn hafter ih =>
    have hr' : r' = (r.after first rest turn).1 := congrArg Prod.fst hafter
    have hwork : work = (r.after first rest turn).2 := congrArg Prod.snd hafter
    rw [hr', hwork, Run.ends_after hturn (by decide), ih, extracted_mem_news hturn,
      Run.stopsAt_after, before.records.stopsAt_linkAll]

theorem Replay.mem_reasonsAt_iff (h : Replay seed log r []) :
    .extracted ∈ r.toHistory.reasonsAt node ↔ r.stopsAt node = true :=
  Run.mem_reasonsAt_toHistory.trans h.extracted_iff

/-- **No node is forgotten.**  Until the budget is used up, the version of a node was examined or
is still to be, unless the history stops at the node. -/
theorem Replay.covered (h : Replay seed log r work) (hgoing : .cut ∉ log) {i : Nat}
    (hi : i < r.nodes.length) :
    i ∈ log.flatMap Turn.examined ++ openNodes work ∨ r.stopsAt i = true := by
  rw [← h.extracted_iff]
  induction h with
  | seed hseed =>
    obtain rfl : i = 0 := Nat.lt_one_iff.mp hi
    exact .inl (List.mem_singleton.mpr hseed.symm)
  | @turn log r r' first rest work turn before hturn hafter ih =>
    have hr' : r' = (r.after first rest turn).1 := congrArg Prod.fst hafter
    have hwork : work = (r.after first rest turn).2 := congrArg Prod.snd hafter
    rw [hr', Run.nodes_after] at hi
    rw [hr', hwork, Run.ends_after hturn (by decide), extracted_mem_news hturn,
      List.flatMap_append, List.flatMap_singleton, List.append_assoc, List.mem_append]
    rcases r.examined_after rest hturn with ⟨rfl, -⟩ | hperm
    · exact absurd (List.mem_append_right _ (List.mem_singleton_self _)) hgoing
    rw [hperm.mem_iff, List.mem_append]
    by_cases hold : i < r.nodes.length
    · have hgoing' : .cut ∉ log := fun hmem => hgoing (List.mem_append_left _ hmem)
      rcases ih hgoing' hold with hmem | hends
      · rcases List.mem_append.mp hmem with hmem | hmem
        · exact .inl (.inl hmem)
        · exact .inl (.inr (.inl hmem))
      · exact .inr (.inl hends)
    · -- a node that the matches of the turn have made
      cases Run.taken_openAll (Nat.not_lt.mp hold) hi with
      | opened hopen _ => exact .inl (.inr (.inr hopen))
      | extracted _ t ht hnode _ _ => exact .inr (.inr ⟨t, ht, hnode⟩)

/-- The flag of the budget is set by a turn that cuts the walk, and by no other. -/
theorem Run.budgetExceeded_after (r : Run α) {first : Branch} {rest : List Branch} {turn : Turn α}
    (hturn : turn.Concerns first) :
    (r.after first rest turn).1.budgetExceeded = false ↔
      r.budgetExceeded = false ∧ turn ≠ .cut := by
  cases hturn with
  | cut a =>
    rw [show (r.after (.active a) rest .cut).1.budgetExceeded = _ from
      (report_foldl_finish (.active a :: rest) { r with budgetExceeded := true }).2]
    exact iff_of_false Bool.noConfusion fun h => h.2 rfl
  | ended t =>
    rw [show (r.after _ rest (.ended t)).1.budgetExceeded = _ from (r.report_finish t).2]
    exact (and_iff_left nofun).symm
  | lost a _ | postponed a _ => exact (and_iff_left nofun).symm
  | @fresh a xs _ _ | @followed a xs _ | @resolved a _ xs _ =>
    rw [← (r.absorbAll_frame a xs).2.1]
    exact (and_iff_left nofun).symm

/-- The flag of the budget tells whether the walk was cut. -/
theorem Replay.budgetExceeded_iff (h : Replay seed log r work) :
    r.budgetExceeded = false ↔ .cut ∉ log := by
  induction h with
  | seed _ => exact iff_of_true rfl List.not_mem_nil
  | @turn log r r' first rest work turn _ hturn hafter ih =>
    have hr' : r' = (r.after first rest turn).1 := congrArg Prod.fst hafter
    rw [hr', r.budgetExceeded_after hturn, ih, List.mem_append, not_or, List.mem_singleton,
      ne_comm]

/-- The versions that are expanded or to be expanded after a turn are those before it, and
those that its matches open. -/
theorem Run.activePlaces_after (r : Run α) {first : Branch} {rest : List Branch} {turn : Turn α}
    (hturn : turn.Concerns first) (hcut : turn ≠ .cut) :
    (r.after first rest turn).1.report.processing ++ activePlaces (r.after first rest turn).2
      = r.report.processing ++ activePlaces (first :: rest)
        ++ activePlaces (r.openAll turn.links) := by
  have hall := (r.expanded_after rest hturn).resolve_left fun h => hcut h.1
  have hplaces := congrArg (List.map fun a : Active => (a.commit.id, a.path)) hall
  rw [List.map_append, List.map_append] at hplaces
  rw [r.processing_after rest hturn, List.append_assoc, List.append_assoc]
  exact congrArg (r.report.processing ++ ·) hplaces

/-- **What does not end at an extraction is expanded**, in the order in which it was reached,
unless the budget is used up. -/
theorem Replay.expanded_in_order (h : Replay seed log r work) (hbudget : r.budgetExceeded = false) :
    r.report.processing ++ Run.activePlaces work = r.passed := by
  induction h with
  | seed hseed =>
    show [(seed.commit.id, seed.path)] = (List.filter _ [_]).map _
    rw [List.filter_singleton]
    simp [Run.stopsAt, Run.ofSeed, Run.newNode]
  | @turn log r r' first rest work turn before hturn hafter ih =>
    have hr' : r' = (r.after first rest turn).1 := congrArg Prod.fst hafter
    have hwork : work = (r.after first rest turn).2 := congrArg Prod.snd hafter
    rw [hr'] at hbudget
    obtain ⟨hbefore, hcut⟩ := (r.budgetExceeded_after hturn).mp hbudget
    rw [hr', hwork, r.activePlaces_after hturn hcut, ih hbefore, Run.passed_after,
      before.records.passed_linkAll]

/-! ### Histories -/

/-- An extraction entered the node first, so that the history stops there, and an edge of
another kind entered it later. -/
def History.CutsOther (h : History α) (node : Int) : Prop :=
  (h.kind.stopsAtExtraction = true ∧ 0 < node ∧
    ∃ e, (h.incoming node).head? = some e ∧ e.kind = .extract) ∧
  ∃ e ∈ h.incoming node, e.kind ≠ .extract

theorem Run.stopsAt_iff :
    r.stopsAt node = true ↔ r.toHistory.kind.stopsAtExtraction = true ∧ 0 < node ∧
      ∃ e, (r.toHistory.incoming node).head? = some e ∧ e.kind = .extract := by
  unfold Run.stopsAt
  rw [Bool.and_eq_true, Bool.and_eq_true, and_assoc, decide_eq_true_iff, Option.any_eq_true,
    History.incoming, List.head?_filter]
  simp only [decide_eq_true_iff]
  exact Iff.rfl

/-- **Where an extraction cuts another branch.**  A node carries an extraction exactly if its
first edge is one, and unless the budget is used up all other nodes are expanded, once each
and in their order.  So the nodes with an extraction whose edges are not all extractions are
those that an extraction entered before an edge of another kind. -/
theorem cut_iff_entered_by_extraction [Score α] {w : Walker σ α} {fuel : Nat} {commit : Commit}
    {path : String} {m : Model} {e : Element} {x x' : Session σ} {h : History α}
    (hh : w.history fuel commit path m e x = (.ok h, x')) :
    (∀ node, .extracted ∈ h.reasonsAt node ↔ h.kind.stopsAtExtraction = true ∧ 0 < node ∧
      ∃ e, (h.incoming node).head? = some e ∧ e.kind = .extract) ∧
    (h.budgetExceeded = false → h.report.processing =
      (h.nodes.filter fun n => .extracted ∉ h.reasonsAt n.index).map
        fun n => (n.commitId, n.path)) ∧
    ∀ node, (.extracted ∈ h.reasonsAt node → ∀ e ∈ h.incoming node, e.kind = .extract) ↔
      ¬ h.CutsOther node := by
  obtain ⟨s, rfl, hreplay⟩ := Walker.replay_of_history hh
  have hstops : ∀ node, .extracted ∈ s.run.toHistory.reasonsAt node ↔
      s.run.graph.stopsAt node = true := fun node => hreplay.mem_reasonsAt_iff
  have hextracted : ∀ node, .extracted ∈ s.run.toHistory.reasonsAt node ↔ _ := fun node =>
    (hstops node).trans (Run.stopsAt_iff (r := s.run.graph))
  refine ⟨hextracted, fun hbudget => ?_, fun node => ?_⟩
  · have hplaces := hreplay.expanded_in_order hbudget
    rw [show Run.activePlaces [] = [] from rfl, List.append_nil] at hplaces
    refine hplaces.trans (congrArg _ (List.filter_congr fun n _ => ?_))
    rw [Bool.eq_iff_iff, decide_eq_true_iff, hstops, Bool.not_eq_true', Bool.not_eq_true]
  · rw [hextracted, History.CutsOther, not_and]
    refine imp_congr_right fun _ => ?_
    rw [not_exists]
    exact forall_congr' fun e => ⟨fun hall h => h.2 (hall h.1), fun hnone he =>
      Classical.byContradiction fun hkind => hnone ⟨he, hkind⟩⟩

/-- One parent of a merge extracts a function that the other one gets by a rename. -/
def extractedAndRenamed : Archive :=
  let old := "def old(a):\n    return a\n"
  let new := "def new(a):\n    return a\n"
  { commits := [
      { id := "r", files := [("x.py", old.toUTF8.toList)], committed := 2 },
      { id := "a", parents := ["r"], files := [("x.py", (new ++ old).toUTF8.toList)],
        committed := 3 },
      { id := "b", parents := ["r"], files := [("x.py", new.toUTF8.toList)], committed := 4 },
      { id := "m", parents := ["a", "b"], files := [("x.py", (new ++ old).toUTF8.toList)],
        committed := 5 }]
    head := "m" }

/-- The rename leads to a node at which the history has stopped. -/
theorem extractedAndRenamed_tells :
    (extractedAndRenamed.tracker "x.py" (.methodAt "new" 1)).tells ⟨extractedAndRenamed, {}, []⟩
      (fun h => h.budgetExceeded = false ∧ h.reasonsAt 3 = [.extracted] ∧
        (h.incoming 3).map (·.kind) = [.extract, .rename]) = true := by
  decide +kernel

theorem cut_iff_entered_by_extraction_extractedAndRenamed : ∃ fuel commit m e x x' h,
    (extractedAndRenamed.tracker "x.py" (.methodAt "new" 1)).walker.history fuel commit "x.py" m e x
      = (.ok h, x') ∧
    (∀ node, .extracted ∈ h.reasonsAt node ↔ h.kind.stopsAtExtraction = true ∧ 0 < node ∧
      ∃ e, (h.incoming node).head? = some e ∧ e.kind = .extract) ∧
    (h.budgetExceeded = false → h.report.processing =
      (h.nodes.filter fun n => .extracted ∉ h.reasonsAt n.index).map
        fun n => (n.commitId, n.path)) ∧
    ∀ node, (.extracted ∈ h.reasonsAt node → ∀ e ∈ h.incoming node, e.kind = .extract) ↔
      ¬ h.CutsOther node := by
  obtain ⟨h, x', ht, -⟩ := Tracker.exists_of_tells extractedAndRenamed_tells
  obtain ⟨commit, m, e, x, -, hh⟩ := Tracker.history_of_track ht
  exact ⟨_, commit, m, e, x, x', h, hh, cut_iff_entered_by_extraction hh⟩

theorem not_entered_by_extractions_only : ¬ ∀ h x',
    (extractedAndRenamed.tracker "x.py" (.methodAt "new" 1)).track ⟨extractedAndRenamed, {}, []⟩
      = (.ok h, x') → h.budgetExceeded = false →
    ∀ node, .extracted ∈ h.reasonsAt node → ∀ e ∈ h.incoming node, e.kind = .extract := by
  intro hclaim
  obtain ⟨h, x', ht, hfacts⟩ := Tracker.exists_of_tells extractedAndRenamed_tells
  obtain ⟨hbudget, hreasons, hkinds⟩ := of_decide_eq_true hfacts
  have hall := hclaim h x' ht hbudget 3 (by rw [hreasons]; exact List.mem_singleton.mpr rfl)
  have hrename : ChangeKind.rename ∈ (h.incoming 3).map (·.kind) := by rw [hkinds]; decide
  obtain ⟨e, he, hkind⟩ := List.mem_map.mp hrename
  exact nomatch hkind.symm.trans (hall e he)

end Lineage
