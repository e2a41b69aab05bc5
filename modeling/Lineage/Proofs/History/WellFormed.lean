import Lineage.Proofs.History.Endings
import Lineage.Proofs.History.Join
import Lineage.Proofs.Score

/-! # Well-formed histories

A history is a graph that can be read without checks: nodes are numbered by their places and
start with the seed, nothing is listed twice, edges and ends stand at nodes, each node can be
reached from the seed, and each edge bears the score and the label of a match
(`History.WellFormed`).

Most of this holds of every replay.  What is left to say is that ends of branches stand at nodes
(`Replay.ends_placed`), that an edge bears what its match bears (`Replay.bears`), and what a match
bears: it was chosen among candidates, wherever a walk has found it (`Walker.at_of_mem_links`).
-/
namespace Lineage
variable {σ α : Type}

/-- The node of a version. -/
def Active.shown (a : Active) : HistoryNode where
  index := a.node
  commitId := a.commit.id
  authorName := a.commit.authorName
  authoredAt := a.commit.authoredAt
  committedAt := a.commit.committedAt
  path := a.path
  kind := a.element.kind
  qualifiedName := a.element.qualifiedName
  signature := a.element.signature.text
  lines := a.element.lines

/-- The history of a seed is a graph of versions and changes: all that is listed is listed once and
stands at its place, and edges bear what matches with a score from the threshold on bear. -/
structure History.WellFormed [Score α] (h : History α) (threshold : α) (seed : Active) : Prop where
  index : ∀ (i : Nat) (n : HistoryNode), h.nodes[i]? = some n → n.index = i
  seeded : h.nodes[0]? = some seed.shown
  keys : (h.nodes.map HistoryNode.key).Nodup
  edges : (h.edges.map fun e => (e.source, e.target)).Nodup
  ends : (h.terminations.map fun t => (t.node, t.reason, t.commitId)).Nodup
  sources : ∀ e ∈ h.edges, ∃ n ∈ h.nodes, n.index = e.source ∧ n.commitId = e.commitId
  targets : ∀ e ∈ h.edges, ∃ n ∈ h.nodes, n.index = e.target
  ended : ∀ t ∈ h.terminations, ∃ n ∈ h.nodes, n.index = t.node
  reachable : ∀ n ∈ h.nodes, Relation.ReflTransGen h.Edge 0 n.index
  kinds : ∀ n ∈ h.nodes, n.kind = seed.element.kind
  scores : ∀ e ∈ h.edges,
    Score.le threshold e.score = true ∧ Score.le e.score Score.one = true
  labels : ∀ e ∈ h.edges, e.kind ≠ .introduced ∧ e.kind ≠ .removed

/-! ### What edges bear -/

/-- The edge is one for a match: it leads from the version that the match was found for, and has
the label and the score of the match. -/
structure ChangeEdge.Bears (e : ChangeEdge α) (l : Active × Match α) : Prop where
  source : e.source = l.1.node
  kind : e.kind = l.2.kind
  score : e.score = l.2.score
  commitId : e.commitId = l.1.commit.id

theorem Run.bears_of_mem_linkAll {r : Run α} {ls : List (Active × Match α)} {e : ChangeEdge α}
    (he : e ∈ (r.linkAll ls).edges) : e ∈ r.edges ∨ ∃ l ∈ ls, e.Bears l := by
  -- on the matches: the edge is one that the first match adds, or comes later
  induction ls generalizing r with
  | nil => exact .inl he
  | cons l ls ih =>
    rcases ih (r := r.link l.1 l.2) he with he | ⟨l', hl', hbears⟩
    · rcases eq_edgeTo_of_mem_edgesWith he with he | rfl
      · exact .inl he
      · exact .inr ⟨l, List.mem_cons_self, rfl, rfl, rfl, rfl⟩
    · exact .inr ⟨l', List.mem_cons_of_mem _ hl', hbears⟩

variable {seed : Active} {log : List (Turn α)} {r : Run α} {work : List Branch}

/-- Every edge is one for a match. -/
theorem Replay.bears (h : Replay seed log r work) {e : ChangeEdge α} (he : e ∈ r.edges) :
    ∃ l ∈ log.flatMap Turn.links, e.Bears l := by
  change e ∈ r.bare.edges at he
  rw [h.bare_eq] at he
  exact (Run.bears_of_mem_linkAll he).resolve_left List.not_mem_nil

/-- The first node is that of the seed. -/
theorem Replay.seeded (h : Replay seed log r work) (hseed : seed.node = 0) :
    r.nodes[0]? = some seed.shown := by
  show r.bare.nodes[0]? = _
  rw [h.bare_eq]
  obtain ⟨later, hlater⟩ := ((Run.ofSeed seed).prefix_linkAll (log.flatMap Turn.links)).1
  rw [← hlater]
  show some ((Run.mk seed.element.kind [] [] [] false {} : Run α).newNode
    seed.commit seed.path seed.element) = some seed.shown
  rw [Active.shown, hseed]
  rfl

/-! ### Ends stand at nodes -/

namespace Run
variable {t : Termination} {turn : Turn α} {first : Branch} {rest : List Branch} {a : Active}

/-- Recording ends adds nothing but them. -/
theorem mem_foldl_finish {bs : List Branch}
    (h : t ∈ (bs.foldl (fun r b => r.finish b.cut) r).terminations) :
    t ∈ r.terminations ∨ ∃ b ∈ bs, t = b.cut := by
  induction bs generalizing r with
  | nil => exact .inl h
  | cons b bs ih =>
    rcases ih h with h | ⟨b', hb', rfl⟩
    · have hends : r.EndsWith [.terminated b.cut] t := endsWith_of_finish (.inl h)
      rcases hends with h | h
      · exact .inl h
      · exact .inr ⟨b, List.mem_cons_self, Branch.terminated.inj (List.mem_singleton.mp h)⟩
    · exact .inr ⟨b', List.mem_cons_of_mem _ hb', rfl⟩

/-- What a turn ends is the version that it examines, or a node that it makes. -/
theorem nonneg_of_mem_news (hturn : turn.Concerns first) (hfirst : first.open? = some a)
    (hexamined : turn.examined ≠ [])
    (hbound : ∀ i ∈ openNodes (first :: rest), i < r.nodes.length)
    (ht : .terminated t ∈ r.news turn) : 0 ≤ t.node := by
  have ha := hbound a.node (openNodes_cons hfirst rest ▸ List.mem_cons_self)
  have hdecided := concludes hturn hfirst hexamined ha
  by_cases hnode : t.node = a.node
  · rw [hnode]
    exact Int.natCast_nonneg _
  · have := (node_of_mem_openAll ((hdecided.elsewhere t hnode).mp ht)).1
    omega

end Run

/-- **Ends stand at nodes**, those that were recorded and those on the work list. -/
theorem Replay.ends_placed (h : Replay seed log r work) {t : Termination}
    (ht : r.EndsWith work t) : ∃ i < r.nodes.length, t.node = (i : Int) := by
  -- where there is no node yet nothing ends, so only nodes below zero are to be excluded
  suffices hnonneg : 0 ≤ t.node by
    obtain ⟨i, hi⟩ := Int.eq_ofNat_of_zero_le hnonneg
    refine ⟨i, Nat.lt_of_not_le fun hle => ?_, hi⟩
    exact (h.accounted.unborn i hle).endless t ht hi
  induction h generalizing t with
  | seed _ =>
    rcases ht with ht | ht
    · cases ht
    · cases List.mem_singleton.mp ht
  | @turn log r r' first rest work turn before hturn hafter ih =>
    have hbound : ∀ i ∈ openNodes (first :: rest), i < r.nodes.length := fun i hi =>
      before.examined_once.2 i (List.mem_append_right _ hi)
    have hr' : r' = (r.after first rest turn).1 := congrArg Prod.fst hafter
    have hwork : work = (r.after first rest turn).2 := congrArg Prod.snd hafter
    rw [hr', hwork] at ht
    by_cases hexamined : turn.examined = []
    · -- a turn that examines nothing ends what was open before
      cases hturn with
      | ended u => exact ih (Run.endsWith_of_finish ht)
      | postponed a vs =>
        refine ih (ht.imp_right fun ht => List.mem_cons_of_mem _ ?_)
        exact (List.mem_append.mp ht).resolve_right fun hb => nomatch List.mem_singleton.mp hb
      | cut a =>
        rcases ht with ht | ht
        · rcases Run.mem_foldl_finish ht with ht | ⟨b, hb, rfl⟩
          · exact ih (.inl ht)
          · cases b with
            | terminated u => exact ih (.inr hb)
            | active b | branching b vs => exact Int.natCast_nonneg b.node
        · cases ht
      | lost | fresh | followed | resolved => cases hexamined
    · obtain ⟨a, hfirst, -⟩ := hturn.open_of_examined hexamined
      rcases r.after_work rest hturn with hnews | ⟨-, b, -, rfl⟩
      · rw [hnews] at ht
        rcases (Run.endsWith_examined hfirst hexamined).mp ht with ht | ht
        · exact ih ht
        · exact Run.nonneg_of_mem_news hturn hfirst hexamined hbound ht
      · exact absurd rfl hexamined

/-! ### What matches bear -/

namespace Walker
variable [Score α] {w : Walker σ α}

/-- What a turn matches was chosen among the elements of a model at a commit. -/
theorem at_of_mem_links {first : Branch} {s : WalkState σ α} {l : Active × Match α}
    (hl : l ∈ (w.turn first s).links) : ∃ commit, l.2.At w.matching l.1 commit := by
  rcases source_of_mem_links hl with ⟨v, -, hat | ⟨parent, -, hat⟩⟩ | ⟨-, p, -, parent, -, hat⟩
  · exact ⟨v.commit, hat⟩
  · exact ⟨parent, hat⟩
  · exact ⟨parent, hat⟩

/-- All matches of a walk are rated by its configuration. -/
theorem Walked.rated {x : Session σ} {s : WalkState σ α} (h : w.Walked seed x log s work) :
    ∀ l ∈ log.flatMap Turn.links, l.2.Rated w.matching := by
  induction h with
  | start => exact fun l hl => nomatch hl
  | step _ _ ih =>
    intro l hl
    rw [List.flatMap_append, List.flatMap_singleton] at hl
    rcases List.mem_append.mp hl with hl | hl
    · exact ih l hl
    · obtain ⟨commit, hat⟩ := at_of_mem_links hl
      exact hat.rated

end Walker

/-- **Every history is well formed**, whatever the repository answers, which faults there are, and
however the walk is bounded. -/
theorem history_wellFormed [Score α] [Score.Ordered α] {w : Walker σ α} {fuel : Nat}
    {commit : Commit} {path : String} {m : Model} {e : Element} {x x' : Session σ} {h : History α}
    (hh : w.history fuel commit path m e x = (.ok h, x')) :
    h.WellFormed w.matching.threshold ⟨0, commit, path, m, e⟩ := by
  obtain ⟨s, rfl, hwalked⟩ := Walker.walked_of_history hh
  have hreplay := hwalked.replay rfl
  have hrec := hreplay.records
  have hrated : ∀ e ∈ s.run.edges, ∃ l, e.Bears l ∧ l.2.Rated w.matching := by
    intro e he
    obtain ⟨l, hl, hbears⟩ := hreplay.bears he
    exact ⟨l, hbears, hwalked.rated l hl⟩
  exact
    { index := hrec.index
      seeded := hreplay.seeded rfl
      keys := hrec.keys
      edges := hreplay.edges_once
      ends := hreplay.ends_apart
      sources := by
        intro e he
        obtain ⟨l, hl, hbears⟩ := hreplay.bears he
        obtain ⟨turn, hturn, hl⟩ := List.mem_flatMap.mp hl
        obtain ⟨n, hn, hindex, hkey⟩ :=
          hreplay.placed.2 turn hturn l.1 (Turn.origin_of_mem_links hl)
        have hcommit : n.commitId = l.1.commit.id := congrArg VersionKey.commitId hkey
        exact ⟨n, hn, hindex.trans hbears.source.symm, hcommit.trans hbears.commitId.symm⟩
      targets := by
        intro e he
        obtain ⟨-, -, -, -, n, hn, -, -, htarget, -⟩ := hreplay.edge_ends he
        exact ⟨n, hn, htarget⟩
      ended := by
        intro t ht
        obtain ⟨i, hi, hnode⟩ := hreplay.ends_placed (.inl ht)
        have hget := List.getElem?_eq_getElem hi
        exact ⟨_, List.mem_of_getElem? hget, (hrec.index i _ hget).trans hnode.symm⟩
      reachable := hreplay.reachable
      kinds := by
        intro n hn
        obtain ⟨v, hv, -, hkind, -⟩ := hrec.noted hn
        exact hkind.trans (kind_of_mem_reached hreplay.kinds.2 hv)
      scores := by
        intro e he
        obtain ⟨l, hbears, hrated⟩ := hrated e he
        obtain ⟨a, hclamped⟩ := hrated.clamped
        rw [hbears.score]
        exact ⟨hrated.reaches, hclamped ▸ Score.clamp_le_one a⟩
      labels := by
        intro e he
        obtain ⟨l, hbears, hrated⟩ := hrated e he
        rw [hbears.kind]
        exact hrated.kind }

theorem history_wellFormed_brokenSides : ∃ fuel commit m e x x' h,
    (brokenSides.tracker "x.py" (.methodAt "new" 1)).walker.history fuel commit "x.py" m e x
      = (.ok h, x') ∧ h.nodes.length = 3 ∧
    h.WellFormed (brokenSides.tracker "x.py" (.methodAt "new" 1)).walker.matching.threshold
      ⟨0, commit, "x.py", m, e⟩ := by
  obtain ⟨h, x', ht, hfacts⟩ := Tracker.exists_of_tells brokenSides_tells
  obtain ⟨commit, m, e, x, -, hh⟩ := Tracker.history_of_track ht
  have hlength := congrArg List.length (of_decide_eq_true hfacts)
  rw [List.length_map] at hlength
  exact ⟨_, commit, m, e, x, x', h, hh, hlength, history_wellFormed hh⟩

end Lineage
