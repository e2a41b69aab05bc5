import Lineage.Proofs.History.Extraction
import Lineage.Proofs.History.Seed

/-! # A history lists what can be reached

The work list is a way to go through a graph that is there before the walk: versions and
their successors.  At the end of a walk each node is a version and each edge a successor
step, and the node of a version has edges to the nodes of all its matches, unless the history
stops there or the walk was cut (`Walker.Explored`).  A walk for a kind that does not stop at
extractions therefore lists the versions that can be reached from the seed, each once, with
their successor steps (`history_lists_reachable`): a node is reached along edges, which are
successor steps, and the nodes are closed under successor steps.
-/
namespace Lineage
variable {σ α : Type} [Score α] {w : Walker σ α} {seed : Version}

/-- What a walk has explored when no branch is left. -/
structure Walker.Explored (w : Walker σ α) (seed : Version) (r : Run α) : Prop where
  versions : ∀ n ∈ r.nodes, ∃ v, w.Proper seed v ∧ n.key = v.key ∧ n.Shows v.element
  edges : ∀ e ∈ r.edges, ∃ n ∈ r.nodes, ∃ n' ∈ r.nodes, ∃ u v, n.index = e.source ∧
    n.key = u.key ∧ n'.index = e.target ∧ n'.key = v.key ∧
      w.Proper seed u ∧ w.Proper seed v ∧ w.Successor u v
  closed : r.budgetExceeded = false → ∀ n ∈ r.nodes, r.stopsAt n.index = false →
    ∀ u, w.Proper seed u → n.key = u.key → ∀ m, w.Matches u m →
      ∃ n' ∈ r.nodes, n'.key = m.key ∧ r.toHistory.Edge n.index n'.index

/-- **A walk explores what it meets**: the versions that it lists and the steps between them are
those of the repository, and no step from a version that was expanded is missing. -/
theorem Walker.Walked.explored (hr : w.repository.Steady) (hapart : w.TellsApart seed)
    (hseed : w.Proper seed seed) {x : Session σ}
    (hx : w.Remembers x.cache) {log : List (Turn α)} {s : WalkState σ α}
    (h : w.Walked seed.active x log s []) : w.Explored seed s.run.graph := by
  have hreplay := h.replay rfl
  have hrec := hreplay.records
  have hexact := h.exact hr hseed hx
  have hlink : ∀ l ∈ log.flatMap Turn.links,
      w.Proper seed l.1.version ∧ w.Matches l.1.version l.2 := by
    intro l hl
    obtain ⟨turn, hturn, hl⟩ := List.mem_flatMap.mp hl
    have horigin := Turn.origin_of_mem_links hl
    exact ⟨(hexact turn hturn).proper l.1 horigin,
      ((hexact turn hturn).exact l.1 l.2 horigin).mp hl⟩
  constructor
  · intro n hn
    obtain ⟨v, hv, hkey, hshows⟩ := hrec.noted hn
    rcases List.mem_cons.mp hv with rfl | hv
    · exact ⟨seed, hseed, hkey, hshows⟩
    · obtain ⟨l, hl, rfl⟩ := List.mem_map.mp hv
      obtain ⟨horigin, hmatches⟩ := hlink l hl
      exact ⟨l.2.version, hmatches.proper hr horigin, hkey, hshows⟩
  · intro e he
    obtain ⟨l, hl, n, hn, n', hn', hsource, hkey, htarget, hkey'⟩ := hreplay.edge_ends he
    obtain ⟨horigin, hmatches⟩ := hlink l hl
    exact ⟨n, hn, n', hn', l.1.version, l.2.version, hsource, hkey, htarget, hkey', horigin,
      hmatches.proper hr horigin, l.2, hmatches, rfl⟩
  · intro hbudget n hn hgoes u hu hkey m hm
    obtain ⟨i, hi, hindex, -⟩ := hrec.index_lt hn
    rw [hindex] at hgoes
    have hexamined := (hreplay.covered (hreplay.budgetExceeded_iff.mp hbudget) hi).resolve_right
      (Bool.eq_false_iff.mp hgoes)
    rw [show openNodes [] = [] from rfl, List.append_nil] at hexamined
    obtain ⟨turn, hturn, hmem⟩ := List.mem_flatMap.mp hexamined
    obtain ⟨a, ha, rfl⟩ := Turn.mem_examined.mp hmem
    -- the version that the turn has examined is the one at the node
    obtain ⟨n₀, hn₀, hindex₀, hkey₀⟩ := hreplay.placed.2 turn hturn a ha
    obtain rfl := hrec.eq_of_index hn hn₀ (hindex.trans hindex₀.symm)
    obtain rfl : u = a.version :=
      hu.eq_of_key hr hapart ((hexact turn hturn).proper a ha) (hkey.symm.trans hkey₀)
    have hl : (a, m) ∈ log.flatMap Turn.links :=
      List.mem_flatMap.mpr ⟨turn, hturn, ((hexact turn hturn).exact a m ha).mpr hm⟩
    obtain ⟨n', hn', hkey', e, he, hsource, htarget⟩ := hrec.linked _ hl
    exact ⟨n', hn', hkey', e, he, hsource.trans hindex.symm, htarget⟩

/-- The versions of nodes are successors of each other where edges connect the nodes. -/
theorem Walker.Explored.edge_iff {r : Run α} (hr : w.repository.Steady) (hapart : w.TellsApart seed)
    (h : w.Explored seed r) {start : Active} {ls : List (Active × Match α)}
    (hrec : r.Records start ls) (hbudget : r.budgetExceeded = false)
    (hgoes : ∀ n ∈ r.nodes, r.stopsAt n.index = false) {n n' : HistoryNode} {u v : Version}
    (hn : n ∈ r.nodes) (hn' : n' ∈ r.nodes)
    (hu : w.Proper seed u) (hv : w.Proper seed v) (hkey : n.key = u.key) (hkey' : n'.key = v.key) :
    r.toHistory.Edge n.index n'.index ↔ w.Successor u v := by
  constructor
  · rintro ⟨e, he, hsource, htarget⟩
    obtain ⟨n₁, hn₁, n₂, hn₂, u₁, v₁, hsource₁, hkey₁, htarget₂, hkey₂, hu₁, hv₁, hstep⟩ :=
      h.edges e he
    obtain rfl := hrec.eq_of_index hn hn₁ (hsource.symm.trans hsource₁.symm)
    obtain rfl := hrec.eq_of_index hn' hn₂ (htarget.symm.trans htarget₂.symm)
    rwa [hu.eq_of_key hr hapart hu₁ (hkey.symm.trans hkey₁),
      hv.eq_of_key hr hapart hv₁ (hkey'.symm.trans hkey₂)]
  · rintro ⟨m, hm, rfl⟩
    obtain ⟨n₁, hn₁, hkey₁, hedge⟩ := h.closed hbudget n hn (hgoes n hn) u hu hkey m hm
    obtain rfl := hrec.eq_of_key hn' hn₁ (hkey'.trans hkey₁.symm)
    exact hedge

/-- **A history lists what can be reached.**  For a block or a variable, in a repository that does
not change and with no bound on the walk, the nodes of the history are the versions that can be
reached from the seed by successor steps, each once, and its edges are the successor steps
between them, each once. -/
theorem history_lists_reachable
    (hkind : seed.element.kind = .blockStmt ∨ seed.element.kind = .variableDecl)
    (hcommits : w.config.maxCommits = none) (hseconds : w.config.maxSeconds = none)
    (hcancelled : ∀ world, w.cancelled world = false) (hr : w.repository.Steady)
    (hapart : w.TellsApart seed) (hbuilt : w.Builds seed.commit.id seed.path (.model seed.model))
    (helement : seed.element ∈ seed.model.elements.toList) {fuel : Nat} {x x' : Session σ}
    {h : History α} (hx : w.Remembers x.cache)
    (hh : w.history fuel seed.commit seed.path seed.model seed.element x = (.ok h, x')) :
    ∃ vs : List Version,
      List.Forall₂ (fun n v => n.key = v.key ∧ n.Shows v.element) h.nodes vs ∧ vs.Nodup ∧
      (∀ v, v ∈ vs ↔ Relation.ReflTransGen w.Successor seed v) ∧
      (h.edges.map fun e => (e.source, e.target)).Nodup ∧
      ∀ i j, h.Edge i j ↔ ∃ (k l : Nat) (u v : Version), i = k ∧ j = l ∧
        vs[k]? = some u ∧ vs[l]? = some v ∧ w.Successor u v := by
  have hseed : w.Proper seed seed := ⟨.inl rfl, hbuilt, helement, rfl⟩
  obtain ⟨s, rfl, hwalked⟩ := Walker.walked_of_history hh
  have hexplored := hwalked.explored hr hapart hseed hx
  have hreplay := hwalked.replay rfl
  have hrec := hreplay.records
  -- without bounds the budget is never used up, so no turn cuts the walk
  have hbudget : s.run.graph.budgetExceeded = false := by
    refine hreplay.budgetExceeded_iff.mpr fun hcut => ?_
    obtain ⟨s', hs'⟩ := (hwalked.exact hr hseed hx .cut hcut).going rfl
    rw [Walker.outOfBudget, hcancelled, hcommits, hseconds] at hs'
    cases hs'
  have hgoes : ∀ n ∈ s.run.graph.nodes, s.run.graph.stopsAt n.index = false := by
    intro n _
    have hrun : s.run.graph.kind = seed.element.kind := hreplay.kind_eq
    rw [Run.stopsAt, hrun]
    rcases hkind with hkind | hkind <;> rw [hkind] <;> rfl
  -- each node is given its version, and edges and paths are read as steps between versions
  have : Nonempty Version := ⟨seed⟩
  choose! f hproper hkey hshows using hexplored.versions
  have hedge : ∀ n ∈ s.run.nodes, ∀ n' ∈ s.run.nodes,
      s.run.toHistory.Edge n.index n'.index ↔ w.Successor (f n) (f n') := fun n hn n' hn' =>
    hexplored.edge_iff hr hapart hrec hbudget hgoes hn hn' (hproper n hn) (hproper n' hn')
      (hkey n hn) (hkey n' hn')
  have hversion : ∀ n ∈ s.run.nodes, ∀ v, w.Proper seed v → n.key = v.key → f n = v :=
    fun n hn v hv h => (hproper n hn).eq_of_key hr hapart hv ((hkey n hn).symm.trans h)
  have hreached : ∀ n ∈ s.run.nodes, Relation.ReflTransGen w.Successor seed (f n) := by
    refine hreplay.forall_nodes (fun n hn hstart => ?_)
      fun e he n hn n' hn' hsource htarget ih => ?_
    · rw [hversion n hn seed hseed hstart]
    · exact ih.tail ((hedge n hn n' hn').mp ⟨e, he, hsource.symm, htarget.symm⟩)
  refine ⟨s.run.nodes.map f, ?_, ?_, fun v => ⟨?_, ?_⟩, hreplay.edges_once, fun i j => ⟨?_, ?_⟩⟩
  · rw [List.forall₂_map_right_iff]
    refine List.forall₂_same.mpr ?_
    exact fun n hn => ⟨hkey n hn, hshows n hn⟩
  · refine (List.Nodup.of_map HistoryNode.key hrec.keys).map_on fun n hn n' hn' heq => ?_
    refine hrec.eq_of_key hn hn' ((hkey n hn).trans ?_)
    rw [heq]
    exact (hkey n' hn').symm
  · -- along the edges that lead to its node
    intro hv
    obtain ⟨n, hn, rfl⟩ := List.mem_map.mp hv
    exact hreached n hn
  · -- what is reached is proper, so it is a version of a node that the last step leads to
    intro hpath
    induction hpath with
    | refl =>
      obtain ⟨n, hn, -, hstart, -⟩ := hrec.seeded
      exact List.mem_map.mpr ⟨n, hn, hversion n hn seed hseed hstart⟩
    | tail _ hstep ih =>
      obtain ⟨n, hn, rfl⟩ := List.mem_map.mp ih
      obtain ⟨m, hm, rfl⟩ := hstep
      obtain ⟨n', hn', hkey', -⟩ :=
        hexplored.closed hbudget n hn (hgoes n hn) _ (hproper n hn) (hkey n hn) m hm
      exact List.mem_map.mpr ⟨n', hn', hversion n' hn' _ (hm.proper hr (hproper n hn)) hkey'⟩
  · rintro ⟨e, he, rfl, rfl⟩
    obtain ⟨n, hn, n', hn', -, -, hsource, -, htarget, -⟩ := hexplored.edges e he
    obtain ⟨k, -, hk, hget⟩ := hrec.index_lt hn
    obtain ⟨l, -, hl, hget'⟩ := hrec.index_lt hn'
    refine ⟨k, l, f n, f n', hsource.symm.trans hk, htarget.symm.trans hl, ?_, ?_, ?_⟩
    · rw [List.getElem?_map]
      exact congrArg (Option.map f) hget
    · rw [List.getElem?_map]
      exact congrArg (Option.map f) hget'
    · exact (hedge n hn n' hn').mp ⟨e, he, hsource.symm, htarget.symm⟩
  · rintro ⟨k, l, u, v, rfl, rfl, hu, hv, hstep⟩
    rw [List.getElem?_map] at hu hv
    obtain ⟨n, hget, rfl⟩ := Option.map_eq_some_iff.mp hu
    obtain ⟨n', hget', rfl⟩ := Option.map_eq_some_iff.mp hv
    rw [← hrec.index k n hget, ← hrec.index l n' hget']
    exact (hedge n (List.mem_of_getElem? hget) n' (List.mem_of_getElem? hget')).mpr hstep

/-- Both sides of a merge add a line to the file of a variable. -/
def bothSides : Archive :=
  { commits := [
      { id := "r", files := [("x.py", "v = 1\n".toUTF8.toList)], committed := 1 },
      { id := "a", parents := ["r"], files := [("x.py", "u = 2\nv = 1\n".toUTF8.toList)],
        committed := 2 },
      { id := "b", parents := ["r"], files := [("x.py", "v = 1\nw = 3\n".toUTF8.toList)],
        committed := 3 },
      { id := "m", parents := ["a", "b"],
        files := [("x.py", "u = 2\nv = 1\nw = 3\n".toUTF8.toList)], committed := 4 }]
    head := "m" }

theorem bothSides_tells : bothSides.distinctRanges .variableDecl = true ∧
    (bothSides.fixedTracker "x.py" (.variableAt none "v" 2)).tells ⟨(), {}, []⟩ (fun h =>
      h.nodes.map (fun n => (n.commitId, n.lines.first))
          = [("m", 2), ("a", 2), ("b", 1), ("r", 1)] ∧
        h.edges.map (fun e => (e.source, e.target)) = [(0, 1), (0, 2), (1, 3), (2, 3)]) = true := by
  decide +kernel

theorem history_lists_reachable_bothSides : ∃ w : Walker Unit Float, ∃ seed fuel x x' h,
    w.repository = bothSides.fixed ∧ seed.element.kind = .variableDecl ∧
    w.config.maxCommits = none ∧ w.config.maxSeconds = none ∧ (∀ world, w.cancelled world = false) ∧
    w.repository.Steady ∧ w.TellsApart seed ∧
    w.Builds seed.commit.id seed.path (.model seed.model) ∧
    seed.element ∈ seed.model.elements.toList ∧ w.Remembers x.cache ∧
    w.history fuel seed.commit seed.path seed.model seed.element x = (.ok h, x') ∧
    h.nodes.map HistoryNode.commitId = ["m", "a", "b", "r"] ∧
    ∃ vs : List Version,
      List.Forall₂ (fun n v => n.key = v.key ∧ n.Shows v.element) h.nodes vs ∧ vs.Nodup ∧
      (∀ v, v ∈ vs ↔ Relation.ReflTransGen w.Successor seed v) ∧
      (h.edges.map fun e => (e.source, e.target)).Nodup ∧
      ∀ i j, h.Edge i j ↔ ∃ (k l : Nat) (u v : Version), i = k ∧ j = l ∧
        vs[k]? = some u ∧ vs[l]? = some v ∧ w.Successor u v := by
  obtain ⟨h, x', ht, hfacts⟩ := Tracker.exists_of_tells bothSides_tells.2
  obtain ⟨commit, m, e, x, hstart, hh⟩ := Tracker.history_of_track ht
  obtain ⟨hresolves, hproper, hkind, hx⟩ :=
    Tracker.start_spec Archive.steady_fixed Walker.remembers_empty hstart
  replace hkind : e.kind = .variableDecl := hkind
  have hapart : (bothSides.fixedTracker "x.py" (.variableAt none "v" 2)).walker.TellsApart
      ⟨commit, "x.py", m, e⟩ :=
    Archive.tellsApart_fixed (by decide) (.inl ⟨_, hresolves⟩) (hkind ▸ bothSides_tells.1)
  have hcommits := congrArg (List.map Prod.fst) (of_decide_eq_true hfacts).1
  rw [List.map_map] at hcommits
  exact ⟨_, ⟨commit, "x.py", m, e⟩, _, x, x', h, rfl, hkind, rfl, rfl, fun _ => rfl,
    Archive.steady_fixed, hapart, hproper.built, hproper.element, hx, hh, hcommits,
    history_lists_reachable (.inr hkind) rfl rfl (fun _ => rfl) Archive.steady_fixed hapart
      hproper.built hproper.element hx hh⟩

end Lineage
