import Lineage.Proofs.Matching.Exact
import Lineage.Proofs.Score.Double
import Lineage.Proofs.Tree.Anchors

/-!
# A tree against its copy, position by position

The correspondence of a tree and its copy is the list of their nodes side by side
(`Matcher.run_of_alike`). So the node at a position has the node at that position as its
counterpart, there are as many pairs as nodes, and every subtree is covered
(`Matcher.copy_matched_by_position`). Its coverage is one in exact arithmetic, and in double
precision as long as the number of its nodes has a place there.
-/

namespace Lineage

namespace NodeMapping
variable {m : NodeMapping} {a b : Tree} {pairs : List (Tree × Tree)}

theorem size_add (hsrc : m.hasSrc a = false) : (m.add a b).size = m.size + 1 := by
  have hnot : ¬ m.forward.contains a.id = true := Bool.eq_false_iff.mp hsrc
  rw [size, add, Std.TreeMap.size_insert, if_neg hnot]
  rfl

/-- Every pair counts, as long as no node comes twice and none has a counterpart before. -/
theorem size_addAll (hnodup : (pairs.map (·.1.id)).Nodup)
    (hsrc : ∀ p ∈ pairs, m.hasSrc p.1 = false) :
    (m.addAll pairs).size = m.size + pairs.length := by
  induction pairs generalizing m with
  | nil => rfl
  | cons p pairs ih =>
    obtain ⟨hp, hnodup⟩ := List.nodup_cons.mp hnodup
    obtain ⟨hfirst, hrest⟩ := List.forall_mem_cons.mp hsrc
    have hlater : ∀ q ∈ pairs, (m.add p.1 p.2).hasSrc q.1 = false := by
      intro q hq
      rw [Bool.eq_false_iff]
      intro hhas
      rcases hasSrc_add.mp hhas with hid | hhas
      · exact hp (List.mem_map.mpr ⟨q, hq, hid.symm⟩)
      · exact Bool.false_ne_true ((hrest q hq).symm.trans hhas)
    rw [addAll, List.foldl_cons, ← addAll, ih hnodup hlater, size_add hfirst, List.length_cons]
    omega

end NodeMapping

namespace Matcher
variable {α : Type} [Score α] (s : Matcher α) {h : ByteArray → String} {a b : Tree}

/-- A tree and its copy have as many pairs as the tree has nodes. -/
theorem size_run_of_alike (hab : a.Alike b) (ha : a.Sound h) (hb : b.Sound h) (hna : a.Distinct)
    (hnb : b.Distinct) : (s.run a b).size = a.size := by
  have hlength := hab.preorder.length_eq
  have hnodup : ((a.preorder.zip b.preorder).map (·.1.id)).Nodup := by
    rw [Tree.Distinct, ← List.map_fst_zip hlength.le, List.map_map] at hna
    exact hna
  rw [run_of_alike s hab ha hb hna hnb,
    NodeMapping.size_addAll hnodup fun _ _ => NodeMapping.hasSrc_empty, List.length_zip,
    ← hlength, Nat.min_self, Tree.length_preorder ha]
  exact Nat.zero_add _

/-- **A tree and its copy are matched position by position**, whatever the settings. Every node has
the node at its position as its counterpart, and every subtree is covered. -/
theorem copy_matched_by_position (hab : a.Alike b) (ha : a.Sound h) (hb : b.Sound h)
    (hna : a.Distinct) (hnb : b.Distinct) :
    (∀ position n, a.at? position = some n →
      ∃ c, b.at? position = some c ∧ (s.run a b).mapped? n = some c) ∧
    (s.run a b).size = a.size ∧
    ∀ t ∈ a.preorder, (s.run a b).matchedIn t = t.size ∧ ((s.run a b).coverage t : ℚ) = 1 ∧
      (t.size < 2 ^ 53 → ((s.run a b).coverage t : Float) = Score.one) := by
  refine ⟨fun position n hn => ?_, size_run_of_alike s hab ha hb hna hnb, fun t ht => ?_⟩
  · obtain ⟨c, hc, hzip⟩ := hab.at? hn
    exact ⟨c, hc, mapped?_run_of_alike s hab ha hb hna hnb hzip⟩
  · have hmatched := matchedIn_run_of_alike s hab ha hb hna hnb ht
    have hpos : 0 < t.size := by
      rw [← Tree.length_preorder (ha.of_mem_preorder ht), Tree.preorder_eq]
      exact Nat.succ_pos _
    refine ⟨hmatched, ?_, fun hsmall => ?_⟩
    · rw [NodeMapping.coverage, hmatched, ratio_eq_one_iff hpos]
    · rw [NodeMapping.coverage, hmatched, Double.ratio_self hpos hsmall]

/-! ### Statements of one kind -/

/-- The same file further down, with other nodes. -/
def copyOfTwo (first second : String) : Tree :=
  .node 5 "Module" "" ⟨3, 4⟩ [statementAt 6 first 3, statementAt 8 second 4]

theorem sound_copyOfTwo (first second : String) : (copyOfTwo first second).Sound Tree.hash := by
  refine Tree.sound_node fun c hc => ?_
  rcases List.mem_pair.mp hc with rfl | rfl <;> exact sound_statementAt ..

/-- Nothing is high enough to be anchored. Two statements of one label are told apart by their
order only, and the second has the second as its counterpart. -/
theorem copy_matched_by_position_ofTwo :
    (fileOfTwo "f" "g").Alike (copyOfTwo "f" "g") ∧
    (fileOfTwo "f" "g").Distinct ∧ (copyOfTwo "f" "g").Distinct ∧
    (fileOfTwo "f" "g").at? [1] = some (statementAt 3 "g" 2) ∧
    (∃ c, (copyOfTwo "f" "g").at? [1] = some c ∧
      (Matcher.run (⟨9, 0.5⟩ : Matcher Float) (fileOfTwo "f" "g") (copyOfTwo "f" "g")).mapped?
        (statementAt 3 "g" 2) = some c) ∧
    (Matcher.run (⟨9, 0.5⟩ : Matcher Float) (fileOfTwo "f" "g") (copyOfTwo "f" "g")).size = 5 ∧
    (fileOfTwo "f" "g").size < 2 ^ 53 ∧
    ((Matcher.run (⟨9, 0.5⟩ : Matcher Float) (fileOfTwo "f" "g") (copyOfTwo "f" "g")).coverage
      (fileOfTwo "f" "g") : Float) = Score.one := by
  have halike : (fileOfTwo "f" "g").Alike (copyOfTwo "f" "g") := by decide +kernel
  have hna : (fileOfTwo "f" "g").Distinct := by decide
  have hnb : (copyOfTwo "f" "g").Distinct := by decide
  obtain ⟨hposition, hsize, hcovered⟩ := copy_matched_by_position (⟨9, 0.5⟩ : Matcher Float) halike
    (sound_fileOfTwo "f" "g") (sound_copyOfTwo "f" "g") hna hnb
  have hsmall : (fileOfTwo "f" "g").size < 2 ^ 53 := by decide
  have hroot := hcovered (fileOfTwo "f" "g") (Tree.mem_preorder_self _)
  exact ⟨halike, hna, hnb, rfl, hposition [1] _ rfl, hsize, hsmall, hroot.2.2 hsmall⟩

end Matcher

end Lineage
