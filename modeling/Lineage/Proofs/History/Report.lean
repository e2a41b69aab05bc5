import Mathlib.Data.List.Sort
import Lineage.Proofs.History.Balance

/-! # The report of a history

The nodes of a history that its walk has expanded (`Walker.expandedNodes`) are those of the
versions that the walk took from its work list while the budget lasted, one by one and in the order
of their numbers.  The report lists commit and path of each of them, and counts them.

Its other counters are those of the balance of the walk: a miss for each entry that the cache has
got, a hit for each other look-up that returned, and a match by tier for each match that was found
in an earlier version of the element's own file (`report_reconciles`).  Look-ups that stopped,
because something cannot be read, are not counted, and matches in other files are not either.
-/
namespace Lineage
variable {σ α : Type} {seed : Active} {log : List (Turn α)} {r : Run α} {work : List Branch}

/-- The nodes of a run stand in the order of their numbers. -/
theorem Run.Records.index_increasing {ls : List (Active × Match α)} (h : r.Records seed ls) :
    (r.nodes.map HistoryNode.index).Pairwise (· < ·) := by
  rw [List.pairwise_map, List.pairwise_iff_getElem]
  intro i j hi hj hij
  rw [h.index i _ (List.getElem?_eq_getElem hi), h.index j _ (List.getElem?_eq_getElem hj)]
  exact Int.ofNat_lt.mpr hij

/-- The report has counted the versions that were expanded. -/
theorem Replay.commits_eq (h : Replay seed log r work) :
    r.report.commitsAnalysed = (log.flatMap Turn.expanded).length := by
  induction h with
  | seed _ => rfl
  | @turn log r r' first rest work turn before hturn hafter ih =>
    have hr' : r' = (r.after first rest turn).1 := congrArg Prod.fst hafter
    rw [hr', r.commits_after rest hturn, ih, List.flatMap_append, List.flatMap_singleton,
      List.length_append, Int.natCast_add]

/-- Of a list with increasing numbers, those are kept whose numbers stand in another one: they are
as many, in the same order. -/
theorem forall₂_filter_of_increasing {β γ : Type} {key : β → Int} {num : γ → Int} {bs : List β}
    {cs : List γ} (hbs : (bs.map key).Pairwise (· < ·)) (hcs : (cs.map num).Pairwise (· < ·))
    (hmem : ∀ c ∈ cs, ∃ b ∈ bs, key b = num c) :
    List.Forall₂ (fun b c => key b = num c) (bs.filter fun b => cs.any fun c => key b = num c)
      cs := by
  -- both lists of numbers are increasing, and have the same members
  have hsame : (bs.filter fun b => cs.any fun c => key b = num c).map key = cs.map num := by
    refine List.Pairwise.eq_of_mem_iff (r := (· < ·)) (hbs.sublist (List.filter_sublist.map key))
      hcs fun i => ?_
    simp only [List.mem_map, List.mem_filter, List.any_eq_true, decide_eq_true_eq]
    constructor
    · rintro ⟨b, ⟨-, c, hc, hbc⟩, rfl⟩
      exact ⟨c, hc, hbc.symm⟩
    · rintro ⟨c, hc, rfl⟩
      obtain ⟨b, hb, hbc⟩ := hmem c hc
      exact ⟨b, ⟨hb, c, hc, hbc⟩, hbc⟩
  rw [← List.forall₂_map_right_iff, ← List.forall₂_map_left_iff, hsame, List.forall₂_eq_eq_eq]

namespace Walker
variable [Score α] {w : Walker σ α} {fuel : Nat} {commit : Commit} {path : String} {m : Model}
  {e : Element} {x x' : Session σ} {h : History α}

variable (w) in
/-- The nodes of a history that its walk has expanded. -/
def expandedNodes (fuel : Nat) (seed : Active) (x : Session σ) (h : History α) :
    List HistoryNode :=
  h.nodes.filter fun n => (w.expansionsOf fuel seed x).any fun a => n.index = a.node

/-- The nodes that were expanded are those of the versions that were expanded, one by one. -/
theorem expandedNodes_spec (hh : w.history fuel commit path m e x = (.ok h, x')) :
    List.Forall₂ (fun (n : HistoryNode) (a : Active) => n.index = a.node ∧ n.key = a.key)
      (w.expandedNodes fuel ⟨0, commit, path, m, e⟩ x h)
      (w.expansionsOf fuel ⟨0, commit, path, m, e⟩ x) := by
  obtain ⟨s, rfl, hreplay⟩ := replay_of_history hh
  have hexpansions := expansionsOf_eq_logOf hh
  have hplaces := hexpansions ▸ hreplay.processed.1
  have hrec := hreplay.records
  have hstart : w.Walked ⟨0, commit, path, m, e⟩ x [] _ _ := .start
  have hincreasing : ((w.expansionsOf fuel ⟨0, commit, path, m, e⟩ x).map Active.node).Pairwise
      (· < ·) := hstart.expansions_increasing rfl fuel
  have hindices := forall₂_filter_of_increasing hrec.index_increasing
    (List.pairwise_map.mpr ((List.pairwise_map.mp hincreasing).imp Int.ofNat_lt.mpr))
    fun a ha => (hplaces a ha).imp fun n hn => ⟨hn.1, hn.2.1⟩
  refine List.forall₂_iff_zip.mpr ⟨hindices.length_eq, fun {n a} hna => ?_⟩
  have hindex := List.forall₂_zip hindices hna
  obtain ⟨hn, ha⟩ := List.of_mem_zip hna
  -- the node of the version is the only one with its number
  obtain ⟨n', hn', hindex', hkey⟩ := hplaces a ha
  obtain rfl := hrec.eq_of_index (List.mem_filter.mp hn).1 hn' (hindex.trans hindex'.symm)
  exact ⟨hindex, hkey⟩

end Walker

/-- **The report reconciles with the walk.**  Whatever the repository answers, whatever cannot be
read or parsed, and whether or not the budget was used up: the report of a history that is told
counts the nodes that were expanded, as expanded and as asked for their parents, and lists them in
the order of their numbers.  It counts the entries that the cache has got as misses, those of them
that are models as built, and the other look-ups that returned as hits; the counts of its tiers add
up to the number of matches in the element's own file. -/
theorem report_reconciles [Score α] {w : Walker σ α} {fuel : Nat} {commit : Commit}
    {path : String} {m : Model} {e : Element} {x x' : Session σ} {h : History α}
    (hh : w.history fuel commit path m e x = (.ok h, x')) :
    let seed : Active := ⟨0, commit, path, m, e⟩
    let expanded := w.expandedNodes fuel seed x h
    let ns := w.notesOf fuel seed x
    (List.Forall₂ (fun (n : HistoryNode) (a : Active) => n.index = a.node ∧ n.key = a.key) expanded
        (w.expansionsOf fuel seed x) ∧
      (expanded.map HistoryNode.index).Pairwise (· < ·)) ∧
    (h.report.commitsAnalysed = expanded.length ∧ h.report.walkerCalls = expanded.length ∧
      h.report.processing.length = expanded.length ∧
      h.report.processing = expanded.map fun n => (n.commitId, n.path)) ∧
    h.report.matched = ns.countP Note.isOwn ∧
    ∃ added, x'.cache.entries = added ++ x.cache.entries ∧ (added.map Prod.fst).Nodup ∧
      (∀ key ∈ added.map Prod.fst, x.cache.get? key = none) ∧
      (∀ entry ∈ added, .look entry.1 (.ok entry.2) ∈ ns) ∧
      h.report.cacheMisses = added.length ∧ h.report.modelsBuilt = added.countP (·.2.parsed) ∧
      h.report.cacheHits = ns.countP Note.returned - added.length := by
  intro seed expanded ns
  have hspec := Walker.expandedNodes_spec hh
  -- what is counted for each version is known from the log of the walk
  obtain ⟨s, hs, hreplay⟩ := Walker.replay_of_history hh
  have hcommits : h.report.commitsAnalysed = expanded.length := by
    rw [hspec.length_eq, Walker.expansionsOf_eq_logOf hh, hs]
    exact hreplay.commits_eq
  have hprocessing : h.report.processing = expanded.map fun n => (n.commitId, n.path) := by
    have hkeys : List.Forall₂ (fun (n : HistoryNode) (a : Active) =>
        (n.commitId, n.path) = (a.commit.id, a.path)) expanded (w.expansionsOf fuel seed x) :=
      hspec.imp fun n a hna => congrArg (fun key : VersionKey => (key.commitId, key.path)) hna.2
    rw [← List.forall₂_map_right_iff, ← List.forall₂_map_left_iff, List.forall₂_eq_eq_eq] at hkeys
    rw [hkeys, Walker.expansionsOf_eq_logOf hh, hs]
    exact hreplay.processed.2
  have hordered : (expanded.map HistoryNode.index).Pairwise (· < ·) :=
    (hs ▸ hreplay.records.index_increasing : (h.nodes.map _).Pairwise _).sublist
      (List.filter_sublist.map _)
  -- what is counted for look-ups and matches is known from the notes
  obtain ⟨s', hsteps, hs', hcache⟩ := Walker.steps_of_history hh
  obtain ⟨added, hbalance⟩ := w.noted_steps fuel [.active seed] (Walker.opening seed x)
  rw [hsteps] at hbalance
  have hreport : s'.run.report = h.report := (congrArg History.report hs').symm
  have hmisses : h.report.cacheMisses = 0 + (added.length : Int) := hreport ▸ hbalance.misses
  have hbuilt : h.report.modelsBuilt = 0 + (added.countP (·.2.parsed) : Int) :=
    hreport ▸ hbalance.built
  have hhits : h.report.cacheHits + added.length = 0 + (ns.countP Note.returned : Int) :=
    hreport ▸ hbalance.hits
  have hmatched : h.report.matched = 0 + (ns.countP Note.isOwn : Int) := hreport ▸ hbalance.matched
  have hcalls : h.report.walkerCalls + 0 = 0 + h.report.commitsAnalysed := hreport ▸ hbalance.calls
  refine ⟨⟨hspec, hordered⟩, ⟨hcommits, by omega, by rw [hprocessing, List.length_map],
    hprocessing⟩, hmatched.trans (Int.zero_add _), added, ?_, hbalance.distinct, hbalance.fresh,
    hbalance.looked, by omega, by omega, by omega⟩
  rw [hcache]
  exact hbalance.entries

/-- Four changed copies of a file are merged, one of which cannot be parsed and one of which cannot
be read; the file of the first commit has been moved. -/
def mergedOfFour : Archive :=
  let f (n : String) := ("def f():\n    return " ++ n ++ "\n").toUTF8.toList
  { commits := [
      { id := "q", files := [("y.py", f "1")], committed := 1 },
      { id := "r", parents := ["q"], files := [("x.py", f "1")], committed := 2 },
      { id := "a", parents := ["r"], files := [("x.py", f "2")], committed := 3 },
      { id := "b", parents := ["r"], files := [("x.py", f "3")], committed := 3 },
      { id := "u", parents := ["r"], files := [("x.py", "def (:\n".toUTF8.toList)],
        committed := 3 },
      { id := "z", parents := ["r"], files := [("x.py", f "5")], committed := 3 },
      { id := "m", parents := ["a", "b", "u", "z"], files := [("x.py", f "4")], committed := 4 }]
    head := "m"
    damage := { blobs := [("z", "x.py")] } }

theorem mergedOfFour_tells :
    (mergedOfFour.fixedTracker "x.py" (.methodAt "f" 1)).tells ⟨(), {}, []⟩ (fun h =>
      h.report =
        { commitsAnalysed := 5, walkerCalls := 5, modelsBuilt := 4, cacheHits := 1,
          cacheMisses := 5, tiers := [("tier_1", 4)],
          processing :=
            [("m", "x.py"), ("a", "x.py"), ("b", "x.py"), ("r", "x.py"), ("q", "y.py")] })
      = true := by
  decide +kernel

/-- Six look-ups return, one of them with what another has added; a seventh cannot be read. -/
theorem report_reconciles_mergedOfFour : ∃ (w : Walker Unit Float) (fuel : Nat),
    ∃ commit path m e x x' h, w.history fuel commit path m e x = (.ok h, x') ∧
    h.report.cacheHits = 1 ∧ h.report.cacheMisses = 5 ∧ h.report.modelsBuilt = 4 ∧
    let seed : Active := ⟨0, commit, path, m, e⟩
    (w.expandedNodes fuel seed x h).map (fun n => (n.commitId, n.path))
      = [("m", "x.py"), ("a", "x.py"), ("b", "x.py"), ("r", "x.py"), ("q", "y.py")] ∧
    (w.notesOf fuel seed x).countP Note.returned = 6 ∧
    (w.notesOf fuel seed x).countP Note.isOwn = 4 ∧
    ∃ added, x'.cache.entries = added ++ x.cache.entries ∧ added.length = 5 ∧
      added.countP (·.2.parsed) = 4 := by
  obtain ⟨h, x', ht, hfacts⟩ := Tracker.exists_of_tells mergedOfFour_tells
  obtain ⟨commit, m, e, x, -, hh⟩ := Tracker.history_of_track ht
  have hreport := of_decide_eq_true hfacts
  obtain ⟨-, ⟨-, -, -, hprocessing⟩, hmatched, added, hentries, -, -, -, hmisses, hbuilt, hhits⟩ :=
    report_reconciles hh
  rw [hreport] at hprocessing hmatched hmisses hbuilt hhits
  dsimp only at hprocessing hmisses hbuilt hhits
  have hfour : (4 : Int) = _ := hmatched
  exact ⟨_, _, commit, _, m, e, x, x', h, hh, congrArg Report.cacheHits hreport,
    congrArg Report.cacheMisses hreport, congrArg Report.modelsBuilt hreport,
    hprocessing.symm, by omega, by omega, added, hentries, by omega, by omega⟩

end Lineage
