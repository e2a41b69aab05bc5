import Mathlib.Logic.Relation
import Lineage.Proofs.History.Branches

/-! # Invariants of walks

A turn puts three things on the work list: ends of branches, the version that it
postpones, and the versions that its matches open (`Run.mem_news`).  So a property of
open branches and one of turns that follow from each other in turn hold along a whole
walk (`Walker.Walked.forall_turns`).

Where a turn finds matches is told by the branch that it takes (`Walker.source_of_mem_links`).

Some facts about every replay need nothing else.  A version that is still to be examined,
or that was examined, stands at its own node (`Replay.placed`).  Each node can be reached
from the seed along edges (`Replay.reachable`), since a node is made together with an edge
from a version that was opened before; so what edges hand on holds of all nodes if it holds
of the seed (`Replay.forall_nodes`).  Two nodes have one edge at most (`Replay.edges_once`).
-/
namespace Lineage
variable {σ α : Type}

/-- The version of a match, to be expanded at a node. -/
def Match.active (m : Match α) (node : Nat) : Active :=
  ⟨node, m.commit, m.path, m.model, m.element⟩

/-- An edge leads from one node to another. -/
def History.Edge (h : History α) (i j : Int) : Prop := ∃ e ∈ h.edges, e.source = i ∧ e.target = j

namespace Run
variable {r : Run α} {m : Match α} {ls : List (Active × Match α)} {turn : Turn α} {b : Branch}

/-! ### What comes onto the work list -/

/-- A match ends a branch, or opens the version that it found at its place. -/
theorem mem_opened (h : b ∈ r.opened m) :
    (∃ t, b = .terminated t) ∨ b = .active (m.active (r.place m)) := by
  unfold opened at h
  split at h
  · cases h
  · split at h
    · exact .inl ⟨_, List.mem_singleton.mp h⟩
    · exact .inr (List.mem_singleton.mp h)

theorem mem_openAll (h : b ∈ r.openAll ls) :
    (∃ t, b = .terminated t) ∨ ∃ l ∈ ls, ∃ node, b = .active (l.2.active node) := by
  induction ls generalizing r with
  | nil => cases h
  | cons l ls ih =>
    rcases List.mem_append.mp h with h | h
    · rcases mem_opened h with hend | hopen
      · exact .inl hend
      · exact .inr ⟨l, List.mem_cons_self, _, hopen⟩
    · rcases ih h with hend | ⟨l', hl', hopen⟩
      · exact .inl hend
      · exact .inr ⟨l', List.mem_cons_of_mem _ hl', hopen⟩

/-- What a turn adds ends a branch, is the version that it postpones, or was opened by its
matches. -/
theorem mem_news (h : b ∈ r.news turn) :
    (∃ t, b = .terminated t) ∨ (∃ a vs, turn = .postponed a vs ∧ b = .branching a vs) ∨
      b ∈ r.openAll turn.links := by
  by_cases hend : ∃ t, b = .terminated t
  · exact .inl hend
  right
  have hne : ∀ t, b ≠ .terminated t := fun t ht => hend ⟨t, ht⟩
  have hbranch : ∀ {a : Active} {xs : List (Finding α)},
      b ∈ (r.resolveAll a xs).flatMap Resolution.branches →
        b ∈ r.openAll ((xs.filterMap Finding.match?).map (a, ·)) := by
    intro a xs hb
    rcases (r.mem_branches a).mp hb with ⟨t, -, rfl⟩ | hb
    · exact absurd rfl (hne t)
    · exact hb
  cases turn with
  | ended | cut => cases h
  | lost a f => exact absurd (List.mem_singleton.mp h) (hne _)
  | postponed a vs => exact .inl ⟨a, vs, rfl, List.mem_singleton.mp h⟩
  | fresh a xs => exact .inr (hbranch ((mem_orIntroduced_of_ne a (hne _)).mp h))
  | followed a xs | resolved a xs => exact .inr (hbranch ((mem_settle_of_ne a (hne _)).mp h))

/-- A match adds versions and changes at the end. -/
theorem prefix_link (r : Run α) (a : Active) (m : Match α) :
    r.nodes <+: (r.link a m).nodes ∧ r.edges <+: (r.link a m).edges := by
  constructor
  · show r.nodes <+: r.nodesWith m
    cases hknown : r.known? m with
    | some i => exact ⟨[], by rw [nodesWith_of_known hknown, List.append_nil]⟩
    | none =>
      rw [nodesWith_of_new hknown]
      exact List.prefix_append _ _
  · show r.edges <+: r.edgesWith a m
    unfold edgesWith
    split
    · exact List.prefix_refl _
    · exact List.prefix_append _ _

/-- So do matches that are recorded one after the other. -/
theorem prefix_linkAll (r : Run α) (ls : List (Active × Match α)) :
    r.nodes <+: (r.linkAll ls).nodes ∧ r.edges <+: (r.linkAll ls).edges := by
  induction ls generalizing r with
  | nil => exact ⟨List.prefix_refl _, List.prefix_refl _⟩
  | cons l ls ih =>
    obtain ⟨hnodes, hedges⟩ := r.prefix_link l.1 l.2
    obtain ⟨hnodes', hedges'⟩ := ih (r.link l.1 l.2)
    exact ⟨hnodes.trans hnodes', hedges.trans hedges'⟩

theorem mem_nodes_linkAll {n : HistoryNode} (h : n ∈ r.nodes) : n ∈ (r.linkAll ls).nodes :=
  (r.prefix_linkAll ls).1.subset h

theorem mem_edges_linkAll {e : ChangeEdge α} (h : e ∈ r.edges) : e ∈ (r.linkAll ls).edges :=
  (r.prefix_linkAll ls).2.subset h

variable (r) in
/-- Versions and changes after a turn are those that its matches leave. -/
theorem graph_after (first : Branch) (rest : List Branch) (turn : Turn α) :
    (r.after first rest turn).1.nodes = (r.linkAll turn.links).nodes ∧
      (r.after first rest turn).1.edges = (r.linkAll turn.links).edges := by
  have hbare := r.bare_after first rest turn
  rw [← bare_linkAll] at hbare
  have hnodes := congrArg Run.nodes hbare
  have hedges := congrArg Run.edges hbare
  exact ⟨hnodes, hedges⟩

/-! ### Versions that matches make -/

/-- A match of a version that is known opens nothing.  One of a version that is new makes the
last node, which is open or the end of an extraction. -/
theorem opened_cases (r : Run α) (a : Active) (m : Match α) :
    (r.opened m = [] ∧ (r.link a m).nodes.length = r.nodes.length) ∨
      ((r.link a m).nodes.length = r.nodes.length + 1 ∧
        (r.opened m = [.active (m.active r.nodes.length)] ∨
          ∃ t : Termination, t.node = (r.nodes.length : Int) ∧ t.reason = .extracted ∧
            r.opened m = [.terminated t])) := by
  rw [nodes_link_length]
  unfold opened place
  cases r.known? m with
  | some i => exact .inl ⟨rfl, rfl⟩
  | none =>
    right
    refine ⟨rfl, ?_⟩
    rw [if_neg (by simp)]
    split
    · exact .inr ⟨_, rfl, rfl, rfl⟩
    · exact .inl rfl

/-- Where matches end branches there was no node before. -/
theorem node_of_mem_openAll {t : Termination} (h : .terminated t ∈ r.openAll ls) :
    (r.nodes.length : Int) ≤ t.node ∧ t.node < (r.linkAll ls).nodes.length := by
  induction ls generalizing r with
  | nil => cases h
  | cons l ls ih =>
    have hgrow := nodes_linkAll_length (r := r.link l.1 l.2) ls
    change _ ∧ t.node < ((r.link l.1 l.2).linkAll ls).nodes.length
    rcases r.opened_cases l.1 l.2 with ⟨hnone, hlen⟩ | ⟨hlen, hone⟩
    · rw [openAll, hnone] at h
      have := ih h
      omega
    · rcases List.mem_append.mp h with h | h
      · rcases hone with hopen | ⟨u, hnode, -, hend⟩
        · rw [hopen] at h
          cases List.mem_singleton.mp h
        · rw [hend] at h
          obtain rfl := Branch.terminated.inj (List.mem_singleton.mp h)
          omega
      · have := ih h
        omega

/-- No branch is at the node. -/
structure Vacant (bs : List Branch) (i : Nat) : Prop where
  closed : i ∉ openNodes bs
  endless : ∀ t : Termination, .terminated t ∈ bs → t.node ≠ (i : Int)

/-- One branch is at the node: it is open there, or ends there at an extraction. -/
inductive Taken (bs : List Branch) (i : Nat) : Prop
  | opened (hopen : i ∈ openNodes bs)
      (hends : ∀ t : Termination, .terminated t ∈ bs → t.node ≠ (i : Int))
  | extracted (hclosed : i ∉ openNodes bs) (t : Termination) (ht : .terminated t ∈ bs)
      (hnode : t.node = (i : Int)) (hreason : t.reason = .extracted)
      (hsole : ∀ u : Termination, .terminated u ∈ bs → u.node = (i : Int) → u = t)

variable {bs bs' all : List Branch} {i : Nat}

/-- Branches that are elsewhere change nothing about the node. -/
theorem Taken.beside (h : Taken bs i) (hvacant : Vacant bs' i)
    (hall : ∀ b, b ∈ all ↔ b ∈ bs ∨ b ∈ bs') : Taken all i := by
  cases h with
  | opened hopen hends =>
    obtain ⟨b, hb, hat⟩ := mem_openNodes.mp hopen
    refine .opened (mem_openNodes.mpr ⟨b, (hall b).mpr (.inl hb), hat⟩) fun t ht => ?_
    exact ((hall _).mp ht).elim (hends t) (hvacant.endless t)
  | extracted hclosed t ht hnode hreason hsole =>
    refine .extracted (fun hmem => ?_) t ((hall _).mpr (.inl ht)) hnode hreason fun u hu hu' => ?_
    · obtain ⟨b, hb, hat⟩ := mem_openNodes.mp hmem
      rcases (hall b).mp hb with hb | hb
      · exact hclosed (mem_openNodes.mpr ⟨b, hb, hat⟩)
      · exact hvacant.closed (mem_openNodes.mpr ⟨b, hb, hat⟩)
    · rcases (hall _).mp hu with hu | hu
      · exact hsole u hu hu'
      · exact absurd hu' (hvacant.endless u hu)

/-- Matches leave the nodes from before alone. -/
theorem vacant_openAll (hi : i < r.nodes.length) : Vacant (r.openAll ls) i where
  closed := fun hmem => by
    have := ((open_openAll ls).2 i hmem).1
    omega
  endless := fun t ht => by
    have := (node_of_mem_openAll ht).1
    omega

/-- The node that a match makes is open, or the end of an extraction; there is no branch
elsewhere. -/
theorem taken_opened {a : Active} (h : (r.link a m).nodes.length = r.nodes.length + 1) :
    Taken (r.opened m) r.nodes.length ∧ ∀ i, i ≠ r.nodes.length → Vacant (r.opened m) i := by
  rcases r.opened_cases a m with ⟨-, hlen⟩ | ⟨-, hopen | ⟨t, hnode, hreason, hend⟩⟩
  · omega
  · rw [hopen]
    have hends : ∀ t : Termination,
        .terminated t ∉ [Branch.active (m.active r.nodes.length)] := fun t ht => by
      cases List.mem_singleton.mp ht
    exact ⟨.opened (List.mem_singleton.mpr rfl) fun t ht => absurd ht (hends t), fun i hi =>
      ⟨fun hmem => hi (List.mem_singleton.mp hmem), fun t ht => absurd ht (hends t)⟩⟩
  · rw [hend]
    have hsole : ∀ u : Termination, .terminated u ∈ [Branch.terminated t] → u = t := fun u hu =>
      Branch.terminated.inj (List.mem_singleton.mp hu)
    refine ⟨.extracted List.not_mem_nil t (List.mem_singleton.mpr rfl) hnode hreason
      fun u hu _ => hsole u hu, fun i hi => ⟨List.not_mem_nil, fun u hu => ?_⟩⟩
    obtain rfl := hsole u hu
    omega

/-- A node that matches make is open, or has one end, at an extraction. -/
theorem taken_openAll (hlow : r.nodes.length ≤ i) (hhigh : i < (r.linkAll ls).nodes.length) :
    Taken (r.openAll ls) i := by
  induction ls generalizing r with
  | nil => exact absurd hhigh (Nat.not_lt.mpr hlow)
  | cons l ls ih =>
    change i < ((r.link l.1 l.2).linkAll ls).nodes.length at hhigh
    rw [openAll]
    rcases r.opened_cases l.1 l.2 with ⟨hnone, hlen⟩ | ⟨hlen, -⟩
    · rw [hnone]
      exact ih (by omega) hhigh
    · obtain ⟨hthis, hother⟩ := taken_opened hlen
      by_cases hi : i = r.nodes.length
      · -- the node that the first match makes; what comes later has greater numbers
        subst hi
        exact hthis.beside (vacant_openAll (by omega)) fun _ => List.mem_append
      · exact (ih (by omega) hhigh).beside (hother i hi) fun _ => List.mem_append.trans or_comm

/-! ### Places -/

/-- The version stands at its node. -/
def Places (r : Run α) (a : Active) : Prop := ∃ n ∈ r.nodes, n.index = a.node ∧ n.key = a.key

theorem Places.linkAll {a : Active} (h : r.Places a) : (r.linkAll ls).Places a := by
  obtain ⟨n, hn, hplace⟩ := h
  exact ⟨n, mem_nodes_linkAll hn, hplace⟩

/-- A version that stands at its node after the matches of a turn does so after the turn. -/
theorem places_after {first : Branch} {rest : List Branch} {a : Active}
    (h : (r.linkAll turn.links).Places a) : (r.after first rest turn).1.Places a := by
  obtain ⟨n, hn, hplace⟩ := h
  rw [← (r.graph_after first rest turn).1] at hn
  exact ⟨n, hn, hplace⟩

/-- What matches open stands at its node. -/
theorem Records.places_openAll {seed a : Active} {more : List (Active × Match α)}
    (h : r.Records seed ls) (hb : .active a ∈ r.openAll more) : (r.linkAll more).Places a := by
  induction more generalizing ls r with
  | nil => cases hb
  | cons l more ih =>
    rcases List.mem_append.mp hb with hb | hb
    · rcases mem_opened hb with ⟨t, ht⟩ | hopen
      · cases ht
      · obtain rfl := Branch.active.inj hopen
        obtain ⟨n, hn, hkey, hplace⟩ := exists_node_at_place (m := l.2) h.index
        have hplaces : (r.link l.1 l.2).Places (l.2.active (r.place l.2)) := ⟨n, hn, hplace, hkey⟩
        exact hplaces.linkAll
    · exact ih (h.link (a := l.1) (m := l.2)) hb

/-! ### Paths along edges -/

/-- A node can be reached from the seed along edges. -/
def Reached (r : Run α) (i : Int) : Prop := Relation.ReflTransGen r.toHistory.Edge 0 i

theorem Reached.linkAll {i : Int} (h : r.Reached i) : (r.linkAll ls).Reached i :=
  h.lift id fun _ _ ⟨e, he, hends⟩ => ⟨e, mem_edges_linkAll he, hends⟩

theorem Reached.link {a : Active} {i : Int} (h : r.Reached i) : (r.link a m).Reached i := by
  have hall : (r.linkAll [(a, m)]).Reached i := h.linkAll
  exact hall

/-- What a match of a version leads to can be reached if the version can. -/
theorem reached_link {a : Active} (hall : ∀ n ∈ r.nodes, r.Reached n.index)
    (ha : r.Places a) : ∀ n ∈ (r.link a m).nodes, (r.link a m).Reached n.index := by
  intro n hn
  rcases cases_of_mem_nodesWith hn with hold | ⟨hnew, rfl⟩
  · exact (hall n hold).link
  · -- the node that the match makes has an edge from the node of the version
    obtain ⟨n₀, hn₀, hindex, -⟩ := ha
    obtain ⟨e, he, hsource, htarget⟩ := exists_mem_edgesWith (r := r) (a := a) (m := m)
    have hplace : r.place m = r.nodes.length := by rw [place, hnew]; rfl
    have hedge : (r.link a m).toHistory.Edge n₀.index
        (r.newNode m.commit m.path m.element).index := by
      refine ⟨e, he, hsource.trans hindex.symm, ?_⟩
      rw [htarget, hplace]
      rfl
    exact (hall n₀ hn₀).link.tail hedge

theorem reached_linkAll (hall : ∀ n ∈ r.nodes, r.Reached n.index)
    (hls : ∀ l ∈ ls, r.Places l.1) :
    ∀ n ∈ (r.linkAll ls).nodes, (r.linkAll ls).Reached n.index := by
  induction ls generalizing r with
  | nil => exact hall
  | cons l ls ih =>
    refine ih (reached_link hall (hls l List.mem_cons_self)) fun l' hl' => ?_
    have hplaces : (r.linkAll [l]).Places l'.1 := (hls l' (List.mem_cons_of_mem _ hl')).linkAll
    exact hplaces

end Run

/-! ### Replays -/

variable {seed : Active} {log : List (Turn α)} {r : Run α} {work : List Branch}

/-- **Every version stands at its node**: those that are still to be examined, and those that
turns have examined. -/
theorem Replay.placed (h : Replay seed log r work) :
    (∀ b ∈ work, ∀ a, b.open? = some a → r.Places a) ∧
      ∀ turn ∈ log, ∀ a, turn.origin? = some a → r.Places a := by
  induction h with
  | seed hseed =>
    refine ⟨fun b hb a ha => ?_, fun turn hturn => nomatch hturn⟩
    obtain rfl := List.mem_singleton.mp hb
    cases ha
    exact ⟨_, List.mem_singleton.mpr rfl, congrArg Int.ofNat hseed.symm, rfl⟩
  | @turn log r r' first rest work turn before hturn hafter ih =>
    obtain ⟨hopen, horigins⟩ := ih
    have hr' : r' = (r.after first rest turn).1 := congrArg Prod.fst hafter
    have hwork : work = (r.after first rest turn).2 := congrArg Prod.snd hafter
    have hkept : ∀ a, r.Places a → r'.Places a := fun a ha => hr' ▸ Run.places_after ha.linkAll
    constructor
    · intro b hb a ha
      rw [hwork] at hb
      rcases r.after_work rest hturn with hafter | ⟨hafter, -⟩ <;> rw [hafter] at hb
      · rcases List.mem_append.mp hb with hb | hb
        · exact hkept a (hopen b (List.mem_cons_of_mem _ hb) a ha)
        rcases Run.mem_news hb with ⟨t, rfl⟩ | ⟨a', vs, rfl, rfl⟩ | hb
        · cases ha
        · cases ha
          cases hturn
          exact hkept a (hopen _ List.mem_cons_self a rfl)
        · rcases Run.mem_openAll hb with ⟨t, rfl⟩ | ⟨l, -, node, rfl⟩
          · cases ha
          · cases ha
            exact hr' ▸ Run.places_after (before.records.places_openAll hb)
      · cases hb
    · intro turn' hmem a ha
      rcases List.mem_append.mp hmem with hmem | hmem
      · exact hkept a (horigins turn' hmem a ha)
      · obtain rfl := List.mem_singleton.mp hmem
        exact hkept a (hopen first List.mem_cons_self a (hturn.open_of_origin ha))

/-- **Every node can be reached from the seed** along edges. -/
theorem Replay.reachable (h : Replay seed log r work) : ∀ n ∈ r.nodes, r.Reached n.index := by
  induction h with
  | seed _ =>
    intro n hn
    obtain rfl := List.mem_singleton.mp hn
    exact .refl
  | @turn log r r' first rest work turn before hturn hafter ih =>
    have hr' : r' = (r.after first rest turn).1 := congrArg Prod.fst hafter
    obtain ⟨hnodes, hedges⟩ := r.graph_after first rest turn
    rw [← hr'] at hnodes hedges
    have hall := Run.reached_linkAll ih fun l hl =>
      before.placed.1 first List.mem_cons_self l.1 (hturn.open_first hl).1
    intro n hn
    rw [hnodes] at hn
    have hreached := hall n hn
    unfold Run.Reached History.Edge Run.toHistory at hreached ⊢
    rwa [hedges]

theorem Run.Records.eq_of_index {ls : List (Active × Match α)} (h : r.Records seed ls)
    {n n' : HistoryNode} (hn : n ∈ r.nodes) (hn' : n' ∈ r.nodes) (hindex : n.index = n'.index) :
    n = n' := by
  obtain ⟨i, -, hi, hget⟩ := h.index_lt hn
  obtain ⟨i', -, hi', hget'⟩ := h.index_lt hn'
  obtain rfl : i = i' := by omega
  exact Option.some.inj (hget.symm.trans hget')

/-- An edge connects the nodes of a version and of a match for it. -/
theorem Replay.edge_ends (h : Replay seed log r work) {e : ChangeEdge α} (he : e ∈ r.edges) :
    ∃ l ∈ log.flatMap Turn.links, ∃ n ∈ r.nodes, ∃ n' ∈ r.nodes,
      n.index = e.source ∧ n.key = l.1.key ∧ n'.index = e.target ∧ n'.key = l.2.key := by
  obtain ⟨l, hl, hsource, n', hn', hkey', htarget⟩ := h.records.edges e he
  obtain ⟨turn, hturn, hl'⟩ := List.mem_flatMap.mp hl
  obtain ⟨n, hn, hindex, hkey⟩ := h.placed.2 turn hturn l.1 (Turn.origin_of_mem_links hl')
  exact ⟨l, hl, n, hn, n', hn', hindex.trans hsource.symm, hkey, htarget.symm, hkey'⟩

/-- What holds of the seed and is handed on along edges holds of all nodes. -/
theorem Replay.forall_nodes (h : Replay seed log r work) {P : HistoryNode → Prop}
    (hseed : ∀ n ∈ r.nodes, n.key = seed.key → P n)
    (hstep : ∀ e ∈ r.edges, ∀ n ∈ r.nodes, ∀ n' ∈ r.nodes, n.index = e.source →
      n'.index = e.target → P n → P n') : ∀ n ∈ r.nodes, P n := by
  -- on the path from the seed to the node
  suffices hpaths : ∀ {i}, r.Reached i → ∀ n ∈ r.nodes, n.index = i → P n from
    fun n hn => hpaths (h.reachable n hn) n hn rfl
  intro i hpath
  induction hpath with
  | refl =>
    intro n hn hzero
    obtain ⟨n₀, hn₀, hzero₀, hstart, -⟩ := h.records.seeded
    obtain rfl := h.records.eq_of_index hn hn₀ (hzero.trans hzero₀.symm)
    exact hseed n hn hstart
  | tail _ hlast ih =>
    intro n' hn' hindex
    obtain ⟨e, he, rfl, htarget⟩ := hlast
    obtain ⟨-, -, n, hn, -, -, hsource, -⟩ := h.edge_ends he
    exact hstep e he n hn n' hn' hsource (hindex.trans htarget.symm) (ih n hn hsource)

/-- **Two nodes have one edge at most.** -/
theorem Replay.edges_once (h : Replay seed log r work) :
    (r.edges.map fun e => (e.source, e.target)).Nodup := by
  have hlink : ∀ (r : Run α) (a : Active) (m : Match α),
      (r.edges.map fun e => (e.source, e.target)).Nodup →
        ((r.link a m).edges.map fun e => (e.source, e.target)).Nodup := by
    intro r a m hnodup
    change ((r.edgesWith a m).map _).Nodup
    unfold Run.edgesWith
    split
    · exact hnodup
    · rename_i hnew
      rw [List.map_append]
      refine hnodup.append (List.nodup_singleton _) fun ends hold hends => hnew ?_
      obtain rfl := List.mem_singleton.mp hends
      obtain ⟨e, he, heq⟩ := List.mem_map.mp hold
      exact List.any_eq_true.mpr ⟨e, he, decide_eq_true (Prod.mk.inj heq)⟩
  have hall : ∀ (ls : List (Active × Match α)) (r : Run α),
      (r.edges.map fun e => (e.source, e.target)).Nodup →
        ((r.linkAll ls).edges.map fun e => (e.source, e.target)).Nodup := by
    intro ls
    induction ls with
    | nil => exact fun _ => id
    | cons l ls ih => exact fun r hr => ih _ (hlink r l.1 l.2 hr)
  rw [show r.edges = r.bare.edges from rfl, h.bare_eq]
  exact hall _ _ List.nodup_nil

/-! ### Where turns find matches -/

/-- The parent versions in which a turn that takes a branch looks for matches of a version: those
that were put off, or those that the repository names. -/
inductive Branch.Offers (r : Repository σ) : Branch → Active → ParentVersion → Prop
  | pending {a : Active} {vs : List ParentVersion} {v : ParentVersion} (hv : v ∈ vs) :
    Offers r (.branching a vs) a v
  | touching {a : Active} {v : ParentVersion} (hv : r.Touches a.commit.id a.path v) :
    Offers r (.active a) a v

namespace Walker
variable [Score α] {w : Walker σ α} {x : Session σ} {s : WalkState σ α}

omit [Score α] in
theorem touches_of_asked {a : Active} {vs : List ParentVersion} {s₁ : WalkState σ α}
    (h : w.askParents a s = (.ok (.ok vs), s₁)) :
    ∀ v ∈ vs, w.repository.Touches a.commit.id a.path v :=
  w.yields_askParents a s _ _ h _ rfl

/-- **Where a match comes from**: it is at a parent version, or at a commit to which the parent that
this version was found from is resolved; or, for a version whose file has no parent version, at a
commit to which a parent of its commit is resolved. -/
theorem source_of_mem_links {first : Branch} {l : Active × Match α}
    (hl : l ∈ (w.turn first s).links) :
    (∃ v, first.Offers w.repository l.1 v ∧ (l.2.At w.matching l.1 v.commit ∨
      ∃ parent, w.repository.Resolves v.viaParent parent ∧ l.2.At w.matching l.1 parent)) ∨
    (first = .active l.1 ∧ ∃ p ∈ l.1.commit.parentIds, ∃ parent,
      w.repository.Resolves p parent ∧ l.2.At w.matching l.1 parent) := by
  have hexamined : ∀ {a : Active} {vs : List ParentVersion} {s : WalkState σ α},
      l ∈ ((w.findings a (w.examine a) vs s).filterMap Finding.match?).map (a, ·) →
        (∀ v ∈ vs, first.Offers w.repository a v) →
        ∃ v, first.Offers w.repository l.1 v ∧ (l.2.At w.matching l.1 v.commit ∨
          ∃ parent, w.repository.Resolves v.viaParent parent ∧ l.2.At w.matching l.1 parent) := by
    intro a vs s hl hoffers
    obtain ⟨rfl, hm⟩ := Finding.mem_links.mp hl
    obtain ⟨v, hv, -, hsource⟩ := w.forall_findings l.1 (w.yields_examine l.1) vs s _ hm
    exact ⟨v, hoffers v hv, hsource l.2 rfl⟩
  cases first with
  | terminated t => cases hl
  | branching a vs => exact .inl (hexamined hl fun v hv => .pending hv)
  | active a =>
    rw [turn] at hl
    split at hl
    · cases hl
    · split at hl
      · cases hl
      · obtain ⟨rfl, hm⟩ := Finding.mem_links.mp hl
        obtain ⟨p, hp, -, hsource⟩ := w.forall_findings l.1 (w.yields_examineParent l.1) _ _ _ hm
        exact .inr ⟨rfl, p, hp, hsource l.2 rfl⟩
      · rename_i hanswer
        exact .inl (hexamined hl fun v hv => .touching (touches_of_asked hanswer v hv))
      · cases hl
      · cases hl

/-- What a turn puts off are parent versions that the repository names. -/
theorem touches_of_postponed {first : Branch} {a : Active} {vs : List ParentVersion}
    (h : w.turn first s = .postponed a vs) :
    first = .active a ∧ ∀ v ∈ vs, w.repository.Touches a.commit.id a.path v := by
  cases first with
  | terminated t => cases h
  | branching b us => cases h
  | active b =>
    rw [turn] at h
    split at h
    · cases h
    · split at h
      · cases h
      · cases h
      · cases h
      · rename_i hanswer
        cases h
        exact ⟨rfl, touches_of_asked hanswer⟩
      · cases h

end Walker

/-! ### Walks -/

namespace Walker
variable [Score α] {w : Walker σ α} {x : Session σ} {s : WalkState σ α}

/-- **What turns and open branches owe to each other**: if a good branch has a fine turn, and
a fine turn opens good branches only, then all branches of a walk are good and all its turns
are fine. -/
theorem Walked.forall_turns {Good : Branch → Prop} {Fine : Turn α → Prop}
    (hseed : Good (.active seed)) (hend : ∀ t, Good (.terminated t))
    (hturn : ∀ {log : List (Turn α)} {s s' : WalkState σ α} {first : Branch}
      {rest work : List Branch}, w.Walked seed x log s (first :: rest) →
        w.step first rest s = (.ok work, s') → Good first → Fine (w.turn first s))
    (hpost : ∀ a vs, Fine (.postponed a vs) → Good (.branching a vs))
    (hopen : ∀ turn, Fine turn → ∀ l ∈ turn.links, ∀ node, Good (.active (l.2.active node)))
    (h : w.Walked seed x log s work) : (∀ b ∈ work, Good b) ∧ ∀ turn ∈ log, Fine turn := by
  induction h with
  | start =>
    refine ⟨fun b hb => ?_, fun turn hturn => nomatch hturn⟩
    obtain rfl := List.mem_singleton.mp hb
    exact hseed
  | @step log s s' first rest work before hstep ih =>
    obtain ⟨hgood, hfine⟩ := ih
    have hthis := hturn before hstep (hgood first List.mem_cons_self)
    have hwork : work = (s.run.graph.after first rest (w.turn first s)).2 :=
      congrArg Prod.snd (w.step_turn hstep)
    constructor
    · intro b hb
      rw [hwork] at hb
      rcases s.run.graph.after_work rest (w.turn_concerns first s) with hafter | ⟨hafter, -⟩ <;>
        rw [hafter] at hb
      · rcases List.mem_append.mp hb with hb | hb
        · exact hgood b (List.mem_cons_of_mem _ hb)
        rcases Run.mem_news hb with ⟨t, rfl⟩ | ⟨a, vs, hpostponed, rfl⟩ | hb
        · exact hend t
        · rw [hpostponed] at hthis
          exact hpost a vs hthis
        · rcases Run.mem_openAll hb with ⟨t, rfl⟩ | ⟨l, hl, node, rfl⟩
          · exact hend t
          · exact hopen _ hthis l hl node
      · cases hb
    · intro turn hmem
      rcases List.mem_append.mp hmem with hmem | hmem
      · exact hfine turn hmem
      · obtain rfl := List.mem_singleton.mp hmem
        exact hthis

end Walker
end Lineage
