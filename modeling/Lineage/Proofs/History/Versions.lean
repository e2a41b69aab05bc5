import Mathlib.Data.List.Nodup
import Lineage.Proofs.History.Replay

/-! # The versions and changes of a walk

What a run holds once matches have been recorded one after the other from a seed: its
nodes are numbered by their places, no two of them have one key, and the node with a
key shows the first element that reached the key, be it the seed or a match.  Each
match has an edge, from the node it was found for to the node with its key, and there
are no other edges.  `Run.Records` collects these facts; recording a match preserves
them (`Records.link`), so they hold of every replay (`Replay.records`).
-/
namespace Lineage

/-- The node shows an element: its kind, its qualified name and the text of its
signature. -/
def HistoryNode.Shows (n : HistoryNode) (e : Element) : Prop :=
  n.kind = e.kind ∧ n.qualifiedName = e.qualifiedName ∧ n.signature = e.signature.text

instance (n : HistoryNode) (e : Element) : Decidable (n.Shows e) := instDecidableAnd

/-- The versions that a walk reached, with their keys: the seed and what was matched. -/
def reached {α : Type} (seed : Active) (ls : List (Active × Match α)) :
    List (VersionKey × Element) :=
  (seed.key, seed.element) :: ls.map fun l => (l.2.key, l.2.element)

namespace Run
variable {α : Type} {r : Run α} {seed a : Active} {m : Match α} {ls : List (Active × Match α)}

theorem nodeOf_known? {i : Nat} (h : r.known? m = some i) :
    ∃ n, r.nodes[i]? = some n ∧ n.key = m.key := by
  obtain ⟨hi, hkey, -⟩ := List.findIdx?_eq_some_iff_getElem.mp h
  exact ⟨r.nodes[i], List.getElem?_eq_getElem hi, of_decide_eq_true hkey⟩

theorem known?_eq_none : r.known? m = none ↔ ∀ n ∈ r.nodes, n.key ≠ m.key := by
  rw [known?, List.findIdx?_eq_none_iff]
  exact forall₂_congr fun n _ => decide_eq_false_iff_not

theorem nodesWith_of_known {i : Nat} (h : r.known? m = some i) : r.nodesWith m = r.nodes := by
  rw [nodesWith, h]

theorem nodesWith_of_new (h : r.known? m = none) :
    r.nodesWith m = r.nodes ++ [r.newNode m.commit m.path m.element] := by
  rw [nodesWith, h]

theorem mem_nodesWith {n : HistoryNode} (h : n ∈ r.nodes) : n ∈ r.nodesWith m := by
  cases hknown : r.known? m with
  | some i => rwa [nodesWith_of_known hknown]
  | none =>
    rw [nodesWith_of_new hknown]
    exact List.mem_append_left _ h

/-- A node after a match is one from before, or the match has made it. -/
theorem cases_of_mem_nodesWith {n : HistoryNode} (h : n ∈ r.nodesWith m) :
    n ∈ r.nodes ∨ (r.known? m = none ∧ n = r.newNode m.commit m.path m.element) := by
  cases hknown : r.known? m with
  | some i =>
    rw [nodesWith_of_known hknown] at h
    exact .inl h
  | none =>
    rw [nodesWith_of_new hknown] at h
    rcases List.mem_append.mp h with h | h
    · exact .inl h
    · exact .inr ⟨rfl, List.mem_singleton.mp h⟩

/-- A node that a match makes has its key. -/
theorem eq_of_mem_nodesWith {n : HistoryNode} (h : n ∈ r.nodesWith m) :
    n ∈ r.nodes ∨ n.key = m.key := by
  rcases cases_of_mem_nodesWith h with h | ⟨-, rfl⟩
  · exact .inl h
  · exact .inr rfl

/-- A node that a match makes is numbered by its place, like those before it. -/
theorem index_nodesWith
    (hindex : ∀ (i : Nat) (n : HistoryNode), r.nodes[i]? = some n → n.index = i)
    (i : Nat) (n : HistoryNode) (h : (r.nodesWith m)[i]? = some n) : n.index = i := by
  cases hknown : r.known? m with
  | some j =>
    rw [nodesWith_of_known hknown] at h
    exact hindex i n h
  | none =>
    rw [nodesWith_of_new hknown] at h
    by_cases hi : i < r.nodes.length
    · rw [List.getElem?_append_left hi] at h
      exact hindex i n h
    · have hlen := (List.getElem?_eq_some_iff.mp h).1
      rw [List.length_append, List.length_singleton] at hlen
      obtain rfl : i = r.nodes.length := by omega
      rw [List.getElem?_concat_length] at h
      cases h
      rfl

/-- A new node has a key that no node had, which is what `known?` found out. -/
theorem nodup_keys_nodesWith (h : (r.nodes.map HistoryNode.key).Nodup) :
    ((r.nodesWith m).map HistoryNode.key).Nodup := by
  cases hknown : r.known? m with
  | some j => rwa [nodesWith_of_known hknown]
  | none =>
    rw [nodesWith_of_new hknown, List.map_append]
    refine h.append (List.nodup_singleton _) fun key hold hnew => ?_
    obtain rfl := List.mem_singleton.mp hnew
    obtain ⟨n, hn, hkey⟩ := List.mem_map.mp hold
    exact known?_eq_none.mp hknown n hn hkey

theorem mem_edgesWith {e : ChangeEdge α} (h : e ∈ r.edges) : e ∈ r.edgesWith a m := by
  unfold edgesWith
  split
  · exact h
  · exact List.mem_append_left _ h

/-- After a match has been recorded there is an edge between its two nodes. -/
theorem exists_mem_edgesWith :
    ∃ e ∈ r.edgesWith a m, e.source = a.node ∧ e.target = r.place m := by
  unfold edgesWith
  split
  · rename_i hold
    obtain ⟨e, he, hends⟩ := List.any_eq_true.mp hold
    exact ⟨e, he, of_decide_eq_true hends⟩
  · exact ⟨r.edgeTo a m, List.mem_append_right _ List.mem_cons_self, rfl, rfl⟩

theorem eq_edgeTo_of_mem_edgesWith {e : ChangeEdge α} (h : e ∈ r.edgesWith a m) :
    e ∈ r.edges ∨ e = r.edgeTo a m := by
  unfold edgesWith at h
  split at h
  · exact .inl h
  · rcases List.mem_append.mp h with h | h
    · exact .inl h
    · exact .inr (List.mem_singleton.mp h)

/-! ### What is recorded -/

/-- The run holds the versions and changes of matches that were recorded from a seed. -/
structure Records (seed : Active) (ls : List (Active × Match α)) (r : Run α) : Prop where
  index : ∀ (i : Nat) (n : HistoryNode), r.nodes[i]? = some n → n.index = i
  keys : (r.nodes.map HistoryNode.key).Nodup
  seeded : ∃ n ∈ r.nodes, n.index = 0 ∧ n.key = seed.key ∧ n.Shows seed.element
  first : ∀ n ∈ r.nodes, ∃ v, n.Shows v.2 ∧ (reached seed ls).find? (·.1 = n.key) = some v
  linked : ∀ l ∈ ls, ∃ n ∈ r.nodes, n.key = l.2.key ∧
    ∃ e ∈ r.edges, e.source = l.1.node ∧ e.target = n.index
  edges : ∀ e ∈ r.edges, ∃ l ∈ ls, e.source = l.1.node ∧
    ∃ n ∈ r.nodes, n.key = l.2.key ∧ e.target = n.index

theorem records_ofSeed : Records seed [] (ofSeed seed : Run α) where
  index := by
    rintro (_ | i) n hn
    · cases hn
      rfl
    · cases hn
  keys := List.nodup_singleton _
  seeded := ⟨_, List.mem_singleton.mpr rfl, rfl, rfl, rfl, rfl, rfl⟩
  first := by
    intro n hn
    obtain rfl := List.mem_singleton.mp hn
    exact ⟨(seed.key, seed.element), ⟨rfl, rfl, rfl⟩, List.find?_cons_of_pos (decide_eq_true rfl)⟩
  linked := fun _ h => nomatch h
  edges := fun _ h => nomatch h

/-- The node with the key of a match stands at its place once the match has been
recorded. -/
theorem exists_node_at_place
    (hindex : ∀ (i : Nat) (n : HistoryNode), r.nodes[i]? = some n → n.index = i) :
    ∃ n ∈ r.nodesWith m, n.key = m.key ∧ n.index = r.place m := by
  cases hknown : r.known? m with
  | some i =>
    obtain ⟨n, hn, hkey⟩ := nodeOf_known? hknown
    rw [nodesWith_of_known hknown, place, hknown]
    exact ⟨n, List.mem_of_getElem? hn, hkey, hindex i n hn⟩
  | none =>
    rw [nodesWith_of_new hknown, place, hknown]
    exact ⟨_, List.mem_append_right _ List.mem_cons_self, rfl, rfl⟩

/-- Each version that was reached has a node. -/
theorem Records.exists_node (h : Records seed ls r) {v : VersionKey × Element}
    (hv : v ∈ reached seed ls) : ∃ n ∈ r.nodes, n.key = v.1 := by
  rcases List.mem_cons.mp hv with rfl | hv
  · obtain ⟨n, hn, -, hkey, -⟩ := h.seeded
    exact ⟨n, hn, hkey⟩
  · obtain ⟨l, hl, rfl⟩ := List.mem_map.mp hv
    obtain ⟨n, hn, hkey, -⟩ := h.linked l hl
    exact ⟨n, hn, hkey⟩

/-- Each node shows a version that was reached. -/
theorem Records.noted (h : Records seed ls r) {n : HistoryNode} (hn : n ∈ r.nodes) :
    ∃ v ∈ reached seed ls, n.key = v.1 ∧ n.Shows v.2 := by
  obtain ⟨v, hshows, hfind⟩ := h.first n hn
  have hkey := List.find?_some hfind
  exact ⟨v, List.mem_of_find?_eq_some hfind, (of_decide_eq_true hkey).symm, hshows⟩

/-- What no node has the key of was not reached. -/
theorem Records.find?_reached_of_new (h : Records seed ls r) (hnew : r.known? m = none) :
    (reached seed ls).find? (·.1 = m.key) = none := by
  refine List.find?_eq_none.mpr fun v hv hkey => ?_
  obtain ⟨n, hn, hn'⟩ := h.exists_node hv
  exact known?_eq_none.mp hnew n hn (hn'.trans (of_decide_eq_true hkey))

/-- A match does not change what a node shows, and a node that it makes shows what it found. -/
theorem Records.first_link (h : Records seed ls r) {n : HistoryNode} (hn : n ∈ r.nodesWith m) :
    ∃ v, n.Shows v.2 ∧ (reached seed (ls ++ [(a, m)])).find? (·.1 = n.key) = some v := by
  have hreached : reached seed (ls ++ [(a, m)]) = reached seed ls ++ [(m.key, m.element)] := by
    simp [reached]
  rw [hreached, List.find?_append]
  rcases cases_of_mem_nodesWith hn with hold | ⟨hnew, rfl⟩
  · obtain ⟨v, hshows, hfind⟩ := h.first n hold
    exact ⟨v, hshows, by rw [hfind, Option.some_or]⟩
  · refine ⟨(m.key, m.element), ⟨rfl, rfl, rfl⟩, ?_⟩
    have hnone := h.find?_reached_of_new hnew
    change ((reached seed ls).find? (·.1 = m.key)).or _ = _
    rw [hnone, Option.none_or]
    exact List.find?_cons_of_pos (decide_eq_true rfl)

theorem Records.link (h : Records seed ls r) : Records seed (ls ++ [(a, m)]) (r.link a m) where
  index := index_nodesWith h.index
  keys := nodup_keys_nodesWith h.keys
  seeded := by
    obtain ⟨n, hn, hshows⟩ := h.seeded
    exact ⟨n, mem_nodesWith hn, hshows⟩
  first := fun _ => h.first_link
  linked := by
    intro l hl
    rcases List.mem_append.mp hl with hl | hl
    · obtain ⟨n, hn, hkey, e, he, hends⟩ := h.linked l hl
      exact ⟨n, mem_nodesWith hn, hkey, e, mem_edgesWith he, hends⟩
    · obtain rfl := List.mem_singleton.mp hl
      obtain ⟨n, hn, hkey, hplace⟩ := exists_node_at_place (m := m) h.index
      obtain ⟨e, he, hsource, htarget⟩ := exists_mem_edgesWith (r := r) (a := a) (m := m)
      exact ⟨n, hn, hkey, e, he, hsource, htarget.trans hplace.symm⟩
  edges := by
    intro e he
    rcases eq_edgeTo_of_mem_edgesWith he with he | rfl
    · obtain ⟨l, hl, hsource, n, hn, hends⟩ := h.edges e he
      exact ⟨l, List.mem_append_left _ hl, hsource, n, mem_nodesWith hn, hends⟩
    · obtain ⟨n, hn, hkey, hplace⟩ := exists_node_at_place (m := m) h.index
      exact ⟨(a, m), List.mem_append_right _ List.mem_cons_self, rfl, n, hn, hkey, hplace.symm⟩

theorem Records.linkAll (h : Records seed ls r) (more : List (Active × Match α)) :
    Records seed (ls ++ more) (r.linkAll more) := by
  induction more generalizing ls r with
  | nil => rwa [List.append_nil]
  | cons l more ih =>
    have := ih (h.link (a := l.1) (m := l.2))
    rwa [List.append_assoc] at this

/-- Two nodes with one key are one node. -/
theorem Records.eq_of_key (h : Records seed ls r) {n n' : HistoryNode} (hn : n ∈ r.nodes)
    (hn' : n' ∈ r.nodes) (hkey : n.key = n'.key) : n = n' :=
  List.inj_on_of_nodup_map h.keys hn hn' hkey

theorem Records.index_lt (h : Records seed ls r) {n : HistoryNode} (hn : n ∈ r.nodes) :
    ∃ i < r.nodes.length, n.index = (i : Int) ∧ r.nodes[i]? = some n := by
  obtain ⟨i, hi, hget⟩ := List.mem_iff_getElem.mp hn
  have hsome : r.nodes[i]? = some n := by rw [List.getElem?_eq_getElem hi, hget]
  exact ⟨i, hi, h.index i n hsome, hsome⟩

/-- Each node but the seed has an edge that leads to it. -/
theorem Records.entered (h : Records seed ls r) {n : HistoryNode} (hn : n ∈ r.nodes)
    (hseed : n.index ≠ 0) : ∃ e ∈ r.edges, e.target = n.index := by
  obtain ⟨v, hv, hkey, -⟩ := h.noted hn
  rcases List.mem_cons.mp hv with rfl | hv
  · obtain ⟨n₀, hn₀, hzero, hkey₀, -⟩ := h.seeded
    obtain rfl := h.eq_of_key hn hn₀ (hkey.trans hkey₀.symm)
    exact absurd hzero hseed
  · obtain ⟨l, hl, rfl⟩ := List.mem_map.mp hv
    obtain ⟨n', hn', hkey', e, he, -, htarget⟩ := h.linked l hl
    obtain rfl := h.eq_of_key hn hn' (hkey.trans hkey'.symm)
    exact ⟨e, he, htarget⟩

/-- A node has an edge to an earlier version exactly if a match was found for it. -/
theorem Records.outgoing (h : Records seed ls r) {node : Int} :
    r.toHistory.outgoing node = [] ↔ ¬ ∃ l ∈ ls, (l.1.node : Int) = node := by
  unfold History.outgoing
  rw [List.filter_eq_nil_iff]
  constructor
  · rintro hnone ⟨l, hl, hnode⟩
    obtain ⟨n, -, -, e, he, hsource, -⟩ := h.linked l hl
    exact hnone e he (decide_eq_true (hsource.trans hnode))
  · intro hnone e he hnode
    obtain ⟨l, hl, hsource, -⟩ := h.edges e he
    exact hnone ⟨l, hl, hsource.symm.trans (of_decide_eq_true hnode)⟩

end Run

variable {α : Type} {seed : Active} {log : List (Turn α)} {r : Run α} {work : List Branch}

/-- A replay holds the versions and changes of the matches of its log. -/
theorem Replay.records (h : Replay seed log r work) : r.Records seed (log.flatMap Turn.links) := by
  have hbare : r.bare.Records seed (log.flatMap Turn.links) := by
    rw [h.bare_eq]
    exact Run.records_ofSeed.linkAll _
  exact { index := hbare.index, keys := hbare.keys, seeded := hbare.seeded, first := hbare.first,
          linked := hbare.linked, edges := hbare.edges }

/-- A version is known exactly if it was reached before. -/
theorem Run.Records.known?_isSome {ls : List (Active × Match α)} (h : r.Records seed ls)
    (m : Match α) : (r.known? m).isSome ↔ ∃ v ∈ reached seed ls, m.key = v.1 := by
  constructor
  · intro hknown
    obtain ⟨i, hi⟩ := Option.isSome_iff_exists.mp hknown
    obtain ⟨n, hn, hkey⟩ := Run.nodeOf_known? hi
    obtain ⟨v, hv, hv', -⟩ := h.noted (List.mem_of_getElem? hn)
    exact ⟨v, hv, hkey.symm.trans hv'⟩
  · rintro ⟨v, hv, hkey⟩
    obtain ⟨n, hn, hn'⟩ := h.exists_node hv
    rw [Option.isSome_iff_ne_none]
    exact fun hnone => Run.known?_eq_none.mp hnone n hn (hn'.trans hkey.symm)

end Lineage
