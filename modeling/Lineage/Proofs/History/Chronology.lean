import Mathlib.Data.Prod.Lex
import Lineage.Proofs.History.Ancestry
import Lineage.Proofs.History.Extraction
import Lineage.Proofs.History.Seed

/-! # The order of time and the edges

The nodes of a history in the order of time are sorted by when they were committed, and those of one
time against their numbers (`HistoryNode.rank`, `History.chronological_sorted`).

If no commit is earlier than its ancestors, an edge leads to a node that is not later.  Where the
times differ, the order of time agrees with the edge.  Where they are equal, it agrees if the target
has the greater number, as it has when the edge made it.  An edge to a smaller number is found later
than its target: another edge, from a node with a still smaller number, has led there first
(`Replay.entered_from_before`).  So the order of time goes wrong exactly at joins of branches of one
time that were found in the wrong order (`chronological_agrees_iff`).
-/
namespace Lineage

/-! ### Sorting by time -/

namespace Time.Moment

/-- The instant of a moment, in seconds and microseconds by universal time. -/
def instant (m : Moment) : ℤ ×ₗ ℕ := toLex (m.universal, m.micros)

theorem compare_eq_cmp (a b : Moment) : a.compare b = cmp a.instant b.instant := by
  simp only [Moment.compare, cmp, cmpUsing, instant, Prod.Lex.toLex_lt_toLex]
  rcases lt_trichotomy a.universal b.universal with hlt | heq | hgt
  · simp [hlt]
  · rw [heq]
    rcases lt_trichotomy a.micros b.micros with hlt | hmicros | hgt
    · simp [hlt, Nat.compare_eq_lt.mpr hlt]
    · simp [hmicros]
    · simp [hgt, hgt.not_gt, Nat.compare_eq_gt.mpr hgt]
  · simp [hgt, hgt.not_gt, hgt.ne']

theorem comparable_trans {a b c : Moment} (hab : a.comparable b = true)
    (hbc : b.comparable c = true) : a.comparable c = true :=
  beq_iff_eq.mpr ((beq_iff_eq.mp hab).trans (beq_iff_eq.mp hbc))

theorem comparable_symm {a b : Moment} (h : a.comparable b = true) : b.comparable a = true :=
  beq_iff_eq.mpr (beq_iff_eq.mp h).symm

end Time.Moment

namespace HistoryNode

/-- What nodes are sorted by: the time, and of one time the later number first. -/
def rank (n : HistoryNode) : (ℤ ×ₗ ℕ) ×ₗ ℤ := toLex (n.committedAt.instant, -n.index)

theorem notAfter_iff {a b : HistoryNode} : notAfter a b = true ↔ a.rank ≤ b.rank := by
  unfold notAfter rank
  rw [Time.Moment.compare_eq_cmp, Prod.Lex.toLex_le_toLex]
  rcases lt_trichotomy a.committedAt.instant b.committedAt.instant with hlt | heq | hgt
  · rw [cmp_eq_lt_iff _ _ |>.mpr hlt]
    simp [hlt]
  · rw [cmp_eq_eq_iff _ _ |>.mpr heq]
    simp [heq]
  · rw [cmp_eq_gt_iff _ _ |>.mpr hgt]
    simp [hgt.not_gt, hgt.ne']

/-- Of a node that is not later than another one, only the number can make it stand behind. -/
theorem rank_lt_iff {a b : HistoryNode} (hle : a.committedAt.instant ≤ b.committedAt.instant)
    (hne : a.index ≠ b.index) :
    a.rank < b.rank ↔ ¬ (a.index < b.index ∧ a.committedAt.instant = b.committedAt.instant) := by
  rw [rank, rank, Prod.Lex.toLex_lt_toLex]
  rcases hle.lt_or_eq with hearlier | hsame
  · simp [hearlier, hearlier.ne]
  · simp only [hsame, lt_irrefl, true_and, and_true, false_or]
    omega

/-- The times of nodes can be compared if each can be compared with one time. -/
theorem comparable_of_forall {ns : List HistoryNode} {t : Time.Moment}
    (h : ∀ n ∈ ns, n.committedAt.comparable t = true) : comparable ns = true := by
  cases ns with
  | nil => rfl
  | cons n rest =>
    refine List.all_eq_true.mpr fun m hm => ?_
    exact Time.Moment.comparable_trans (h n List.mem_cons_self)
      (Time.Moment.comparable_symm (h m (List.mem_cons_of_mem _ hm)))

end HistoryNode

/-- In a list that is sorted by keys, what has the smaller key stands before. -/
theorem idxOf_lt_iff_of_sorted {β κ : Type} [DecidableEq β] [LinearOrder κ] {key : β → κ}
    {l : List β} (hsorted : l.Pairwise fun a b => key a < key b) {a b : β} (ha : a ∈ l)
    (hb : b ∈ l) : l.idxOf a < l.idxOf b ↔ key a < key b := by
  have hi := List.idxOf_lt_length_of_mem ha
  have hj := List.idxOf_lt_length_of_mem hb
  have hkeys := List.pairwise_iff_getElem.mp hsorted
  have hforth : l.idxOf a < l.idxOf b → key a < key b := fun h => by
    simpa only [List.getElem_idxOf] using hkeys _ _ hi hj h
  have hback : l.idxOf b < l.idxOf a → key b < key a := fun h => by
    simpa only [List.getElem_idxOf] using hkeys _ _ hj hi h
  refine ⟨hforth, fun hkey => ?_⟩
  rcases lt_trichotomy (l.idxOf a) (l.idxOf b) with hlt | heq | hgt
  · exact hlt
  · have hsame : a = b := by
      have hget : l[l.idxOf a] = l[l.idxOf b] := by simp only [heq]
      simpa only [List.getElem_idxOf] using hget
    exact absurd (hsame ▸ hkey) (lt_irrefl _)
  · exact absurd (hback hgt) hkey.not_gt

variable {σ α : Type}

/-- The nodes in the order of time are sorted by their ranks, if no two have one number. -/
theorem History.chronological_sorted {h : History α}
    (hindex : ∀ n ∈ h.nodes, ∀ n' ∈ h.nodes, n.index = n'.index → n = n')
    (hnodup : h.nodes.Nodup) : h.chronological.Pairwise fun a b => a.rank < b.rank := by
  have hperm : h.chronological.Perm h.nodes := List.mergeSort_perm _ _
  have hle : h.chronological.Pairwise fun a b => HistoryNode.notAfter a b = true := by
    refine List.pairwise_mergeSort (fun a b c hab hbc => ?_) (fun a b => ?_) _
    · rw [HistoryNode.notAfter_iff] at hab hbc ⊢
      exact hab.trans hbc
    · rw [Bool.or_eq_true, HistoryNode.notAfter_iff, HistoryNode.notAfter_iff]
      exact le_total _ _
  refine ((hperm.nodup_iff.mpr hnodup).and hle).imp_of_mem fun {a b} ha hb hab => ?_
  have hrank := HistoryNode.notAfter_iff.mp hab.2
  refine lt_of_le_of_ne hrank fun heq => hab.1 ?_
  have hindices : -a.index = -b.index := congrArg (fun p => (ofLex p).2) heq
  exact hindex a (hperm.mem_iff.mp ha) b (hperm.mem_iff.mp hb) (Int.neg_inj.mp hindices)

/-! ### Which edge enters a node first -/

namespace Run
variable {r : Run α} {seed a : Active} {m : Match α} {ls more : List (Active × Match α)}

/-- The first edge that enters a node but the seed comes from a smaller number. -/
def EnteredFromBefore (r : Run α) : Prop := ∀ n ∈ r.nodes, n.index ≠ 0 →
  ∃ e, r.entrance? n.index = some e ∧ e.source < n.index

/-- An edge that makes a node comes from one that was there, and later edges do not come first. -/
theorem Records.enteredFromBefore_link (h : r.Records seed ls) (ha : r.Places a)
    (hbefore : r.EnteredFromBefore) : (r.link a m).EnteredFromBefore := by
  intro n hn hseed
  rcases cases_of_mem_nodesWith hn with hn | ⟨hnew, rfl⟩
  · rw [entrance?_link_of_entered (h.entrance?_isSome hn hseed)]
    exact hbefore n hn hseed
  · obtain ⟨n₀, hn₀, hindex, -⟩ := ha
    obtain ⟨i, hi, hi', -⟩ := h.index_lt hn₀
    refine ⟨r.edgeTo a m, h.entrance?_link_new hnew, ?_⟩
    show (a.node : Int) < r.nodes.length
    omega

theorem Records.enteredFromBefore_linkAll (h : r.Records seed ls)
    (hmore : ∀ l ∈ more, r.Places l.1) (hbefore : r.EnteredFromBefore) :
    (r.linkAll more).EnteredFromBefore := by
  induction more generalizing ls r with
  | nil => exact hbefore
  | cons l more ih =>
    refine ih (h.link (a := l.1) (m := l.2)) (fun l' hl' => ?_)
      (h.enteredFromBefore_link (hmore l List.mem_cons_self) hbefore)
    have hplaces : (r.linkAll [l]).Places l'.1 := (hmore l' (List.mem_cons_of_mem _ hl')).linkAll
    exact hplaces

end Run

variable {seed : Active} {log : List (Turn α)} {r : Run α} {work : List Branch}

/-- **Every node but the seed is first entered from a smaller number.** -/
theorem Replay.entered_from_before (h : Replay seed log r work) : r.EnteredFromBefore := by
  induction h with
  | seed _ =>
    intro n hn hseed
    obtain rfl := List.mem_singleton.mp hn
    exact absurd rfl hseed
  | @turn log r r' first rest work turn before hturn hafter ih =>
    have hr' : r' = (r.after first rest turn).1 := congrArg Prod.fst hafter
    obtain ⟨hnodes, hedges⟩ := r.graph_after first rest turn
    rw [← hr'] at hnodes hedges
    have hlinks := before.records.enteredFromBefore_linkAll
      (fun l hl => before.placed.1 first List.mem_cons_self l.1 (hturn.open_first hl).1) ih
    intro n hn hseed
    rw [hnodes] at hn
    obtain ⟨e, he, hsource⟩ := hlinks n hn hseed
    refine ⟨e, ?_, hsource⟩
    rw [Run.entrance?, hedges]
    exact he

/-! ### When nodes were committed -/

/-- The commits that a repository hands out have times that go by their identifiers, and no commit
is earlier than an older one. -/
structure Repository.Dated (r : Repository σ) (older : String → String → Prop)
    (time : String → Time.Moment) : Prop where
  times : ∀ c, r.HandsOut c → c.committedAt = time c.id
  ages : ∀ p c, older p c →
    (time p).comparable (time c) = true ∧ (time p).compare (time c) ≠ .gt

/-- Each node shows the time of the seed, or of a match. -/
theorem Run.timed_linkAll {time : String → Time.Moment} {ls : List (Active × Match α)}
    (hls : ∀ l ∈ ls, l.2.commit.committedAt = time l.2.commit.id) {r : Run α}
    (hr : ∀ n ∈ r.nodes, n.committedAt = time n.commitId) :
    ∀ n ∈ (r.linkAll ls).nodes, n.committedAt = time n.commitId := by
  induction ls generalizing r with
  | nil => exact hr
  | cons l ls ih =>
    refine ih (fun l' hl' => hls l' (List.mem_cons_of_mem _ hl')) fun n hn => ?_
    rcases cases_of_mem_nodesWith hn with hn | ⟨-, rfl⟩
    · exact hr n hn
    · exact hls l List.mem_cons_self

namespace Walker
variable [Score α] {w : Walker σ α}

/-- The versions that a branch has put off are handed out by the repository. -/
def HandsOut (w : Walker σ α) : Branch → Prop
  | .branching _ vs => ∀ v ∈ vs, w.repository.HandsOut v.commit
  | .active _ | .terminated _ => True

/-- What a turn matches, and what it puts off, is at commits that the repository hands out. -/
structure HandedOut (w : Walker σ α) (turn : Turn α) : Prop where
  links : ∀ l ∈ turn.links, w.repository.HandsOut l.2.commit
  postponed : ∀ a vs, turn = .postponed a vs → w.HandsOut (.branching a vs)

theorem handedOut_turn {first : Branch} (hfirst : w.HandsOut first) (s : WalkState σ α) :
    w.HandedOut (w.turn first s) := by
  refine ⟨fun l hl => ?_, fun a vs h v hv => ?_⟩
  · rcases source_of_mem_links hl with
      ⟨v, hv, hat | ⟨parent, hresolved, hat⟩⟩ | ⟨-, p, -, parent, hresolved, hat⟩ <;> rw [hat.commit]
    · cases hv with
      | pending hv => exact hfirst v hv
      | touching hv => exact .inr ⟨_, _, v, hv, rfl⟩
    · exact .inl ⟨_, hresolved⟩
    · exact .inl ⟨_, hresolved⟩
  · exact .inr ⟨_, _, v, (touches_of_postponed h).2 v hv, rfl⟩

/-- All matches of a walk are at commits that the repository hands out. -/
theorem Walked.handedOut {x : Session σ} {s : WalkState σ α} (h : w.Walked seed x log s work) :
    ∀ l ∈ log.flatMap Turn.links, w.repository.HandsOut l.2.commit := by
  have hall : (∀ b ∈ work, w.HandsOut b) ∧ ∀ turn ∈ log, w.HandedOut turn := by
    refine h.forall_turns trivial (fun _ => trivial) ?_ ?_ ?_
    · exact fun _ _ hfirst => handedOut_turn hfirst _
    · exact fun a vs hturn => hturn.postponed a vs rfl
    · exact fun _ _ _ _ _ => trivial
  intro l hl
  obtain ⟨turn, hturn, hl⟩ := List.mem_flatMap.mp hl
  exact (hall.2 turn hturn).links l hl

end Walker

/-! ### Nodes of a history -/

/-- A node is found at its number. -/
theorem Run.Records.nodeAt?_eq {seed : Active} {ls : List (Active × Match α)} {r : Run α}
    (h : r.Records seed ls) {n : HistoryNode} (hn : n ∈ r.nodes) :
    r.toHistory.nodeAt? n.index = some n := by
  obtain ⟨i, -, hindex, hget⟩ := h.index_lt hn
  have hnat : ¬ (i : Int) < 0 := by omega
  unfold History.nodeAt?
  rw [hindex, if_neg hnat, if_neg hnat]
  exact hget

namespace Walker
variable [Score α] {w : Walker σ α} {older : String → String → Prop}
  {time : String → Time.Moment} {x : Session σ} {s : WalkState σ α}
  (h : w.Walked seed x log s work) (hseed : seed.node = 0)
  (hr : w.repository.LeadsBack older) (hcommit : seed.commit.LeadsBack older)
include h hseed

/-- Every node shows the time of its commit. -/
theorem Walked.timed (hdates : w.repository.Dated older time)
    (htime : seed.commit.committedAt = time seed.commit.id) :
    ∀ n ∈ s.run.nodes, n.committedAt = time n.commitId := by
  have hnodes : s.run.nodes = ((Run.ofSeed seed : Run α).linkAll (log.flatMap Turn.links)).nodes :=
    (congrArg Run.nodes (h.replay hseed).bare_eq :)
  rw [hnodes]
  refine Run.timed_linkAll (fun l hl => hdates.times _ (h.handedOut l hl)) fun n hn => ?_
  obtain rfl := List.mem_singleton.mp hn
  exact htime

include hr hcommit

/-- Every node is at the commit of the seed or at an older one. -/
theorem Walked.older_than_seed [IsStrictOrder String older] :
    ∀ n ∈ s.run.nodes, n.commitId = seed.commit.id ∨ older n.commitId seed.commit.id := by
  have hreplay := h.replay hseed
  refine hreplay.forall_nodes (fun n _ hkey => .inl (congrArg VersionKey.commitId hkey)) ?_
  intro e he n hn n' hn' hsource htarget hle
  obtain ⟨n₁, hn₁, n₁', hn₁', hsource₁, htarget₁, holder⟩ :=
    h.edges_older hseed hr hcommit e he
  obtain rfl := hreplay.records.eq_of_index hn hn₁ (hsource.trans hsource₁.symm)
  obtain rfl := hreplay.records.eq_of_index hn' hn₁' (htarget.trans htarget₁.symm)
  rcases hle with heq | hle
  · exact .inr (heq ▸ holder)
  · exact .inr (IsTrans.trans _ _ _ holder hle)

/-- No edge leads to the seed. -/
theorem Walked.target_ne_zero [IsStrictOrder String older] {e : ChangeEdge α}
    (he : e ∈ s.run.edges) : e.target ≠ 0 := by
  intro hzero
  have hrecords := (h.replay hseed).records
  obtain ⟨n, hn, n', hn', -, htarget, hlt⟩ := h.edges_older hseed hr hcommit e he
  obtain ⟨n₀, hn₀, hindex, hkey, -⟩ := hrecords.seeded
  obtain rfl := hrecords.eq_of_index hn' hn₀ (htarget.trans (hzero.trans hindex.symm))
  rw [show n'.commitId = seed.commit.id from congrArg VersionKey.commitId hkey] at hlt
  rcases h.older_than_seed hseed hr hcommit n hn with heq | hle
  · exact irrefl _ (heq ▸ hlt)
  · exact irrefl _ (IsTrans.trans _ _ _ hlt hle)

end Walker

/-- The order of time agrees with an edge: its target stands before its source. -/
def History.Agrees (h : History α) (e : ChangeEdge α) : Prop :=
  ∃ n n', h.nodeAt? e.source = some n ∧ h.nodeAt? e.target = some n' ∧
    h.chronological.idxOf n' < h.chronological.idxOf n

/-- The ends of an edge were committed at one time. -/
def History.AtOneTime (h : History α) (e : ChangeEdge α) : Prop :=
  ∃ n n', h.nodeAt? e.source = some n ∧ h.nodeAt? e.target = some n' ∧
    n'.committedAt.compare n.committedAt = .eq

namespace History
variable {h : History α} {e : ChangeEdge α} {n n' : HistoryNode}
  (hsource : h.nodeAt? e.source = some n) (htarget : h.nodeAt? e.target = some n')
include hsource htarget

/-- The ranks of its ends tell whether the order of time agrees with an edge. -/
theorem agrees_iff (hn : n ∈ h.nodes) (hn' : n' ∈ h.nodes)
    (hindex : ∀ n ∈ h.nodes, ∀ n' ∈ h.nodes, n.index = n'.index → n = n')
    (hnodup : h.nodes.Nodup) : h.Agrees e ↔ n'.rank < n.rank := by
  rw [← idxOf_lt_iff_of_sorted (chronological_sorted hindex hnodup)
    (List.mem_mergeSort.mpr hn') (List.mem_mergeSort.mpr hn)]
  constructor
  · rintro ⟨m, m', hm, hm', hbefore⟩
    cases hsource.symm.trans hm
    cases htarget.symm.trans hm'
    exact hbefore
  · exact fun hbefore => ⟨n, n', hsource, htarget, hbefore⟩

theorem atOneTime_iff :
    h.AtOneTime e ↔ n'.committedAt.instant = n.committedAt.instant := by
  rw [← cmp_eq_eq_iff, ← Time.Moment.compare_eq_cmp]
  constructor
  · rintro ⟨m, m', hm, hm', hsame⟩
    cases hsource.symm.trans hm
    cases htarget.symm.trans hm'
    exact hsame
  · exact fun hsame => ⟨n, n', hsource, htarget, hsame⟩

end History

/-- **Where the order of time agrees with the edges.**  In a repository in which no commit is
earlier than its ancestors, the times of a history can be compared, and the order of time agrees
with every edge but those between nodes of one time whose target has the smaller number.  Such an
edge is not the first one that enters its target: that one comes from a still smaller number. -/
theorem chronological_agrees_iff [Score α] {w : Walker σ α} {older : String → String → Prop}
    [IsStrictOrder String older] {time : String → Time.Moment} {fuel : Nat} {commit : Commit}
    {path : String} {m : Model} {e : Element} {x x' : Session σ} {h : History α}
    (hr : w.repository.LeadsBack older) (hcommit : commit.LeadsBack older)
    (hdates : w.repository.Dated older time) (htime : commit.committedAt = time commit.id)
    (hh : w.history fuel commit path m e x = (.ok h, x')) :
    HistoryNode.comparable h.nodes = true ∧
    ∀ e ∈ h.edges, (h.Agrees e ↔ ¬ (e.target < e.source ∧ h.AtOneTime e)) ∧
      (e.target < e.source → ∃ first, (h.incoming e.target).head? = some first ∧
        first.source < e.target) := by
  obtain ⟨s, rfl, hwalked⟩ := Walker.walked_of_history hh
  have hreplay := hwalked.replay rfl
  have hrecords := hreplay.records
  have htimes := hwalked.timed rfl hdates htime
  refine ⟨HistoryNode.comparable_of_forall (t := time commit.id) fun n hn => ?_,
    fun e he => ⟨?_, fun hless => ?_⟩⟩
  · -- every node can be compared with the seed
    rw [htimes n hn]
    rcases hwalked.older_than_seed rfl hr hcommit n hn with heq | hle
    · rw [heq]
      exact beq_self_eq_true _
    · exact (hdates.ages _ _ hle).1
  · obtain ⟨n, hn, n', hn', hsource, htarget, hlt⟩ := hwalked.edges_older rfl hr hcommit e he
    have hnode : s.run.toHistory.nodeAt? e.source = some n := hsource ▸ hrecords.nodeAt?_eq hn
    have hnode' : s.run.toHistory.nodeAt? e.target = some n' := htarget ▸ hrecords.nodeAt?_eq hn'
    have hle : n'.committedAt.instant ≤ n.committedAt.instant := by
      have hages := (hdates.ages _ _ hlt).2
      rw [← htimes n' hn', ← htimes n hn, Time.Moment.compare_eq_cmp] at hages
      exact not_lt.mp fun hgt => hages ((cmp_eq_gt_iff _ _).mpr hgt)
    have hne : n'.index ≠ n.index := by
      intro heq
      obtain rfl := hrecords.eq_of_index hn hn' heq.symm
      exact irrefl _ hlt
    rw [History.agrees_iff hnode hnode' hn hn' (fun n hn n' hn' => hrecords.eq_of_index hn hn')
      hrecords.keys.of_map, History.atOneTime_iff hnode hnode', ← hsource, ← htarget]
    exact HistoryNode.rank_lt_iff hle hne
  · obtain ⟨-, -, n', hn', -, htarget, -⟩ := hwalked.edges_older rfl hr hcommit e he
    obtain ⟨first, hfirst, hsource⟩ := hreplay.entered_from_before n' hn'
      (htarget ▸ hwalked.target_ne_zero rfl hr hcommit he)
    rw [htarget] at hfirst hsource
    refine ⟨first, ?_, hsource⟩
    rw [History.incoming, List.head?_filter]
    exact hfirst

/-! ### A branch that is joined -/

/-- A merge of a commit and its child, which was committed at the same time. -/
def mergedWithChild : Archive :=
  let f (n : String) := ("def f():\n    return " ++ n ++ "\n").toUTF8.toList
  { commits := [
      { id := "a", files := [("x.py", f "1")], committed := 1 },
      { id := "b", parents := ["a"], files := [("x.py", f "2")], committed := 1 },
      { id := "m", parents := ["a", "b"], files := [("x.py", f "3")], committed := 2 }]
    head := "m" }

/-- A tracker of the function in it. -/
def mergedTracker : Tracker Unit Float := mergedWithChild.fixedTracker "x.py" (.methodAt "f" 1)

/-- The parent is found before its child, and of the same time, so that it stands behind it. -/
theorem mergedTracker_tells :
    (mergedTracker.start? ⟨(), {}, []⟩).map (fun seed =>
      (seed.1.commit.id, seed.1.commit.parentIds, seed.1.commit.committedAt))
        = some ("m", ["a", "b"], .ofEpoch 2) ∧
    mergedTracker.tells ⟨(), {}, []⟩ (fun h =>
      h.edges.map (fun e => (e.source, e.target)) = [(0, 1), (0, 2), (2, 1)] ∧
      h.nodes.Nodup ∧ (∀ n ∈ h.nodes, ∀ n' ∈ h.nodes, n.index = n'.index → n = n') ∧
      ∃ e ∈ h.edges, ∃ n ∈ h.nodes, ∃ n' ∈ h.nodes, h.nodeAt? e.source = some n ∧
        h.nodeAt? e.target = some n' ∧ n.notAfter n' = true) = true := by
  decide +kernel

/-- When its commits were committed. -/
def mergedTime (id : String) : Time.Moment := if id = "a" ∨ id = "b" then .ofEpoch 1 else .ofEpoch 2

theorem dated_mergedWithChild :
    mergedWithChild.fixed.Dated (olderIn ["a", "b", "m"]) mergedTime where
  times c hc := by
    obtain ⟨record, hrecord, rfl⟩ := Archive.handsOut_fixed hc
    have hall : ∀ record ∈ mergedWithChild.commits,
        (Archive.plainCommit record).committedAt = mergedTime (Archive.plainCommit record).id := by
      decide
    exact hall record hrecord
  ages p c hlt := by
    refine ⟨?_, fun hgt => ?_⟩
    · unfold mergedTime
      split <;> split <;> rfl
    · -- only the merge is later than something, and it is older than nothing there
      have hlate : ¬ (p = "a" ∨ p = "b") ∧ (c = "a" ∨ c = "b") := by
        unfold mergedTime at hgt
        split at hgt <;> split at hgt
        · cases hgt
        · cases hgt
        · rename_i hp hc
          exact ⟨hp, hc⟩
        · cases hgt
      have hnamed : p ∈ ["a", "b", "m"] := Classical.not_not.mp fun hp => not_olderIn hp hlt
      obtain rfl : p = "m" := by simpa [not_or.mp hlate.1] using hnamed
      obtain ⟨-, rfl | rfl⟩ := hlate
      · exact absurd hlt (by decide)
      · exact absurd hlt (by decide)

theorem chronological_agrees_iff_merged : ∃ older time fuel commit m e x x' h,
    IsStrictOrder String older ∧ mergedTracker.walker.repository.LeadsBack older ∧
    commit.LeadsBack older ∧ mergedTracker.walker.repository.Dated older time ∧
    commit.committedAt = time commit.id ∧
    mergedTracker.walker.history fuel commit "x.py" m e x = (.ok h, x') ∧
    h.edges.map (fun e => (e.source, e.target)) = [(0, 1), (0, 2), (2, 1)] ∧
    HistoryNode.comparable h.nodes = true ∧
    ∀ e ∈ h.edges, (h.Agrees e ↔ ¬ (e.target < e.source ∧ h.AtOneTime e)) ∧
      (e.target < e.source → ∃ first, (h.incoming e.target).head? = some first ∧
        first.source < e.target) := by
  obtain ⟨hstart, htells⟩ := mergedTracker_tells
  obtain ⟨h, x', ht, hfacts⟩ := Tracker.exists_of_tells htells
  obtain ⟨commit, m, e, x, hseed, hh⟩ := Tracker.history_of_track ht
  rw [hseed] at hstart
  obtain ⟨hid, hrest⟩ := Prod.mk.inj (Option.some.inj hstart)
  obtain ⟨hparents, hdate⟩ := Prod.mk.inj hrest
  dsimp only at hid hparents hdate
  have hback : mergedWithChild.fixed.LeadsBack (olderIn ["a", "b", "m"]) :=
    Archive.leadsBack_fixed (by decide) fun _ => not_olderIn (by decide)
  have hcommit : commit.LeadsBack (olderIn ["a", "b", "m"]) := by
    rw [Commit.LeadsBack, hid, hparents]
    decide
  have htime : commit.committedAt = mergedTime commit.id := by
    rw [hdate, hid]
    decide
  exact ⟨_, _, _, commit, m, e, x, x', h, inferInstance, hback, hcommit, dated_mergedWithChild,
    htime, hh, (of_decide_eq_true hfacts).1,
    chronological_agrees_iff hback hcommit dated_mergedWithChild htime hh⟩

theorem not_chronological_along_edges : ¬ ∀ h x',
    mergedTracker.track ⟨(), {}, []⟩ = (.ok h, x') → ∀ e ∈ h.edges, h.Agrees e := by
  intro hclaim
  obtain ⟨h, x', ht, hfacts⟩ := Tracker.exists_of_tells mergedTracker_tells.2
  obtain ⟨-, hnodup, hindex, e, he, n, hn, n', hn', hsource, htarget, hfirst⟩ :=
    of_decide_eq_true hfacts
  have hbefore := (History.agrees_iff hsource htarget hn hn' hindex hnodup).mp (hclaim h x' ht e he)
  exact not_le.mpr hbefore (HistoryNode.notAfter_iff.mp hfirst)

end Lineage
