import Lineage.Proofs.History.Introduction
import Lineage.Proofs.History.Walks

/-! # No branch is lost

At any time of a walk a node is in one of two conditions.  A node that is still to be
examined, like one that is not there yet, is *untouched*: it has no edge to an earlier
version, and no branch has ended or is about to end at it.  All other nodes are
*settled*: each has an edge or an end, and an end that is not a failure to read or parse
stands alone; only an introduction can stand beside an edge.

`Accounted` says so of all nodes.  Recording the end of a branch preserves it
(`Accounted.finish`), and so do the end of the budget, which turns all open branches into
ends (`Accounted.cut`), and the examination of a version, which settles its node and
makes new ones that are open or ends of extractions (`Accounted.examine`).  Every turn is
one of these (`Accounted.after`), so the account holds along every replay, and when no
branch is left all nodes are settled (`every_branch_ends`).
-/
namespace Lineage
variable {σ α : Type}

/-- Something could not be read or parsed. -/
def TerminationReason.isFailure : TerminationReason → Bool
  | repositoryError | unparseable => true
  | introduced | budgetExceeded | extracted => false

namespace Run
variable {r r' : Run α} {work work' : List Branch} {node : Int}

/-- A branch has ended so, or is about to. -/
def EndsWith (r : Run α) (work : List Branch) (t : Termination) : Prop :=
  t ∈ r.terminations ∨ .terminated t ∈ work

/-- The node has an edge to an earlier version. -/
def Leaves (r : Run α) (node : Int) : Prop := ∃ e ∈ r.edges, e.source = node

/-- Nothing leads away from the node, and no branch ends at it. -/
structure Untouched (r : Run α) (work : List Branch) (node : Int) : Prop where
  edgeless : ¬ r.Leaves node
  endless : ∀ t, r.EndsWith work t → t.node ≠ node

/-- The node has an edge or an end, and ends that are no failures stand alone. -/
structure Settled (r : Run α) (work : List Branch) (node : Int) : Prop where
  somehow : r.Leaves node ∨ ∃ t, r.EndsWith work t ∧ t.node = node
  alone : ∀ t, r.EndsWith work t → t.node = node → t.reason.isFailure = true ∨
    ((∀ u, r.EndsWith work u → u.node = node → u = t) ∧
      (t.reason = .introduced ∨ ¬ r.Leaves node))

/-- Nodes that are open or not there yet are untouched, all others are settled. -/
structure Accounted (r : Run α) (work : List Branch) : Prop where
  pending : ∀ i ∈ openNodes work, r.Untouched work (i : Nat)
  unborn : ∀ i : Nat, r.nodes.length ≤ i → r.Untouched work i
  closed : ∀ i : Nat, i < r.nodes.length → i ∉ openNodes work → r.Settled work i

/-! ### Nodes that a step does not concern -/

theorem Untouched.of_same (h : r.Untouched work node) (hedges : r'.Leaves node → r.Leaves node)
    (hends : ∀ t, t.node = node → r'.EndsWith work' t → r.EndsWith work t) :
    r'.Untouched work' node where
  edgeless := fun hleaves => h.edgeless (hedges hleaves)
  endless := fun t ht hnode => h.endless t (hends t hnode ht) hnode

theorem Settled.of_same (h : r.Settled work node) (hedges : r'.Leaves node ↔ r.Leaves node)
    (hends : ∀ t, t.node = node → r'.EndsWith work' t → r.EndsWith work t)
    (hsome : (∃ t, r.EndsWith work t ∧ t.node = node) → ∃ t, r'.EndsWith work' t ∧ t.node = node) :
    r'.Settled work' node where
  somehow := h.somehow.imp hedges.mpr hsome
  alone := by
    intro t ht hnode
    rcases h.alone t (hends t hnode ht) hnode with hfailure | ⟨hsole, hreason⟩
    · exact .inl hfailure
    · exact .inr ⟨fun u hu hu' => hsole u (hends u hu' hu) hu',
        hreason.imp_right fun hnone hleaves => hnone (hedges.mp hleaves)⟩

/-! ### Recording ends -/

variable {t : Termination}

theorem endsWith_of_finish {u : Termination} (h : (r.finish t).EndsWith work u) :
    r.EndsWith (.terminated t :: work) u := by
  unfold finish at h
  split at h
  · exact h.imp_right (List.mem_cons_of_mem _)
  · rcases h with h | h
    · rcases List.mem_append.mp h with h | h
      · exact .inl h
      · obtain rfl := List.mem_singleton.mp h
        exact .inr List.mem_cons_self
    · exact .inr (List.mem_cons_of_mem _ h)

/-- An end that was recorded before is not recorded again, but then there is the old one. -/
theorem exists_endsWith_finish (h : ∃ u, r.EndsWith (.terminated t :: work) u ∧ u.node = node) :
    ∃ u, (r.finish t).EndsWith work u ∧ u.node = node := by
  obtain ⟨u, hu, hnode⟩ := h
  have hkept : ∀ u ∈ r.terminations, u ∈ (r.finish t).terminations := by
    intro u hu
    unfold finish
    split
    · exact hu
    · exact List.mem_append_left _ hu
  rcases hu with hu | hu
  · exact ⟨u, .inl (hkept u hu), hnode⟩
  · rcases List.mem_cons.mp hu with heq | hu
    · obtain rfl := Branch.terminated.inj heq
      obtain ⟨v, hv, hsame, -⟩ := (exists_finish (r := r) (t := u)).mpr (.inr ⟨rfl, rfl⟩)
      exact ⟨v, .inl hv, hsame.trans hnode⟩
    · exact ⟨u, .inr hu, hnode⟩

theorem leaves_finish : (r.finish t).Leaves node ↔ r.Leaves node := by
  unfold finish
  split <;> exact Iff.rfl

theorem nodes_finish : (r.finish t).nodes = r.nodes := by
  unfold finish
  split <;> rfl

/-- Recording the end of a branch keeps the account. -/
theorem Accounted.finish (h : r.Accounted (.terminated t :: work)) :
    (r.finish t).Accounted work where
  pending := fun i hi =>
    (h.pending i hi).of_same leaves_finish.mp fun _ _ => endsWith_of_finish
  unborn := by
    intro i hi
    rw [nodes_finish] at hi
    exact (h.unborn i hi).of_same leaves_finish.mp fun _ _ => endsWith_of_finish
  closed := by
    intro i hi hclosed
    rw [nodes_finish] at hi
    exact (h.closed i hi hclosed).of_same leaves_finish (fun _ _ => endsWith_of_finish)
      exists_endsWith_finish

/-- What the end of the budget makes of the work list: the branches that had ended still do, and
those that were open end. -/
theorem endsWith_cut : r.EndsWith (work.map fun b => .terminated b.cut) t ↔
    r.EndsWith work t ∨ ∃ i ∈ openNodes work, t = ⟨(i : Nat), .budgetExceeded, none, none⟩ := by
  unfold EndsWith
  rw [or_assoc, List.mem_map]
  refine or_congr_right ⟨?_, ?_⟩
  · rintro ⟨b, hb, heq⟩
    obtain rfl := Branch.terminated.inj heq
    cases b with
    | terminated t => exact .inl hb
    | active a | branching a vs =>
      exact .inr ⟨a.node, mem_openNodes.mpr ⟨_, hb, a, rfl, rfl⟩, rfl⟩
  · rintro (ht | ⟨i, hi, rfl⟩)
    · exact ⟨_, ht, rfl⟩
    · obtain ⟨b, hb, a, hopen, rfl⟩ := mem_openNodes.mp hi
      refine ⟨b, hb, ?_⟩
      cases b with
      | terminated t => cases hopen
      | active a' | branching a' vs =>
        obtain rfl := Option.some.inj hopen
        rfl

theorem openNodes_cut : openNodes (work.map fun b => .terminated b.cut) = [] := by
  refine List.eq_nil_iff_forall_not_mem.mpr fun i hi => ?_
  obtain ⟨b, hb, a, hopen, -⟩ := mem_openNodes.mp hi
  obtain ⟨b', -, rfl⟩ := List.mem_map.mp hb
  cases hopen

/-- A node that was not open gets no end from the end of the budget. -/
theorem endsWith_of_cut {i : Nat} (hclosed : i ∉ openNodes work) (hnode : t.node = (i : Int))
    (h : r.EndsWith (work.map fun b => .terminated b.cut) t) : r.EndsWith work t := by
  rcases endsWith_cut.mp h with ht | ⟨j, hj, rfl⟩
  · exact ht
  · obtain rfl := Int.ofNat.inj hnode
    exact absurd hj hclosed

/-- An open version gets the end of the budget, and no other. -/
theorem Untouched.settled_of_cut {i : Nat} (h : r.Untouched work (i : Int))
    (hopen : i ∈ openNodes work) :
    r.Settled (work.map fun b => .terminated b.cut) (i : Int) := by
  have hall : ∀ t, r.EndsWith (work.map fun b => .terminated b.cut) t → t.node = (i : Int) →
      t = ⟨(i : Nat), .budgetExceeded, none, none⟩ := by
    intro t ht hnode
    rcases endsWith_cut.mp ht with ht | ⟨j, -, rfl⟩
    · exact absurd hnode (h.endless t ht)
    · obtain rfl := Int.ofNat.inj hnode
      rfl
  constructor
  · exact .inr ⟨_, endsWith_cut.mpr (.inr ⟨i, hopen, rfl⟩), rfl⟩
  · intro t ht hnode
    obtain rfl := hall t ht hnode
    exact .inr ⟨hall, .inr h.edgeless⟩

/-- Once the budget is used up, every open branch is an end. -/
theorem Accounted.budget (h : r.Accounted work)
    (hbound : ∀ i ∈ openNodes work, i < r.nodes.length) :
    r.Accounted (work.map fun b => .terminated b.cut) where
  pending := by
    intro i hi
    rw [openNodes_cut] at hi
    cases hi
  unborn := by
    intro i hi
    have hclosed : i ∉ openNodes work := fun hopen => absurd (hbound i hopen) (by omega)
    exact (h.unborn i hi).of_same id fun _ => endsWith_of_cut hclosed
  closed := by
    intro i hi _
    by_cases hopen : i ∈ openNodes work
    · exact (h.pending i hopen).settled_of_cut hopen
    · refine (h.closed i hi hopen).of_same Iff.rfl (fun _ => endsWith_of_cut hopen) ?_
      rintro ⟨t, ht, hnode⟩
      exact ⟨t, endsWith_cut.mpr (.inl ht), hnode⟩

/-- A step that changes neither the graph nor what is open and what ends keeps the account. -/
theorem Accounted.of_same (h : r.Accounted work) (hnodes : r'.nodes = r.nodes)
    (hedges : r'.edges = r.edges) (hopen : ∀ i, i ∈ openNodes work' ↔ i ∈ openNodes work)
    (hends : ∀ t, r'.EndsWith work' t ↔ r.EndsWith work t) : r'.Accounted work' := by
  have hleaves : ∀ node, r'.Leaves node ↔ r.Leaves node := fun node => by
    unfold Leaves
    rw [hedges]
  constructor
  · intro i hi
    exact (h.pending i ((hopen i).mp hi)).of_same (hleaves _).mp fun t _ => (hends t).mp
  · intro i hi
    rw [hnodes] at hi
    exact (h.unborn i hi).of_same (hleaves _).mp fun t _ => (hends t).mp
  · intro i hi hclosed
    rw [hnodes] at hi
    exact (h.closed i hi (mt (hopen i).mpr hclosed)).of_same (hleaves _) (fun t _ => (hends t).mp)
      fun ⟨t, ht, hnode⟩ => ⟨t, (hends t).mpr ht, hnode⟩

/-- The end of the budget keeps the account: it ends all branches. -/
theorem Accounted.cut (h : r.Accounted work) (hbound : ∀ i ∈ openNodes work, i < r.nodes.length) :
    (work.foldl (fun r b => r.finish b.cut) r).Accounted [] := by
  have hall := h.budget hbound
  clear h hbound
  induction work generalizing r with
  | nil => exact hall
  | cons b bs ih => exact ih hall.finish

/-! ### Examining a version -/

variable {ls : List (Active × Match α)} {a : Active}

/-- Matches lead away from the nodes that they were found for. -/
theorem leaves_linkAll :
    (r.linkAll ls).Leaves node ↔ r.Leaves node ∨ ∃ l ∈ ls, (l.1.node : Int) = node := by
  induction ls generalizing r with
  | nil => simp [linkAll]
  | cons l ls ih =>
    change ((r.link l.1 l.2).linkAll ls).Leaves node ↔ _
    rw [ih, List.exists_mem_cons_iff, ← or_assoc]
    refine or_congr_left ⟨?_, ?_⟩
    · rintro ⟨e, he, hsource⟩
      rcases eq_edgeTo_of_mem_edgesWith he with he | rfl
      · exact .inl ⟨e, he, hsource⟩
      · exact .inr hsource
    · rintro (⟨e, he, hsource⟩ | hnode)
      · exact ⟨e, mem_edgesWith he, hsource⟩
      · obtain ⟨e, he, hsource, -⟩ := exists_mem_edgesWith (r := r) (a := l.1) (m := l.2)
        exact ⟨e, he, hsource.trans hnode⟩

/-- What a turn decides about the node that it examines: there is a match or an end, and an end
that is no failure is an introduction alone.  Elsewhere only matches end branches. -/
structure Concludes (r : Run α) (turn : Turn α) (node : Int) : Prop where
  somehow : turn.links ≠ [] ∨ ∃ t, .terminated t ∈ r.news turn ∧ t.node = node
  alone : ∀ t, .terminated t ∈ r.news turn → t.node = node → t.reason.isFailure = true ∨
    (t.reason = .introduced ∧ ∀ u, .terminated u ∈ r.news turn → u.node = node → u = t)
  elsewhere : ∀ t : Termination, t.node ≠ node →
    (.terminated t ∈ r.news turn ↔ .terminated t ∈ r.openAll turn.links)

variable {turn : Turn α} {first : Branch} {rest : List Branch}

/-- What findings leave at the node that they were looked for is their failures. -/
theorem isFailure_of_mem_branches {xs : List (Finding α)} (hfits : ∀ x ∈ xs, x.Fits a)
    (ha : a.node < r.nodes.length)
    (ht : .terminated t ∈ (r.resolveAll a xs).flatMap Resolution.branches)
    (hnode : t.node = a.node) : .failed t ∈ xs ∧ t.reason.isFailure = true := by
  rcases (r.mem_branches a).mp ht with ⟨u, hu, heq⟩ | ht
  · obtain rfl := Branch.terminated.inj heq
    refine ⟨hu, ?_⟩
    rcases (hfits _ hu).2 with hreason | hreason <;> rw [hreason] <;> rfl
  · have := (node_of_mem_openAll ht).1
    omega

theorem mem_branches_elsewhere {xs : List (Finding α)} (hfits : ∀ x ∈ xs, x.Fits a)
    (hnode : t.node ≠ a.node) :
    .terminated t ∈ (r.resolveAll a xs).flatMap Resolution.branches ↔
      .terminated t ∈ r.openAll ((xs.filterMap Finding.match?).map (a, ·)) := by
  rw [r.mem_branches a]
  refine or_iff_right ?_
  rintro ⟨u, hu, heq⟩
  obtain rfl := Branch.terminated.inj heq
  exact hnode (hfits _ hu).1

theorem branches_of_absent {xs : List (Finding α)} (h : ∀ x ∈ xs, x = .absent) :
    (r.resolveAll a xs).flatMap Resolution.branches = [] := by
  have hnone : xs.filterMap Finding.match? = [] :=
    List.filterMap_eq_nil_iff.mpr fun x hx => by rw [h x hx]; rfl
  refine List.eq_nil_iff_forall_not_mem.mpr fun b hb => ?_
  rcases (r.mem_branches a).mp hb with ⟨t, ht, -⟩ | hb
  · exact nomatch h _ ht
  · rw [hnone] at hb
    cases hb

/-- A turn that leaves the branches of its findings, with an introduction at the end where
nothing was found or nothing failed. -/
theorem concludes_of_branches {xs : List (Finding α)} {bs : List Branch}
    (hfits : ∀ x ∈ xs, x.Fits a) (ha : a.node < r.nodes.length)
    (hlinks : turn.links = (xs.filterMap Finding.match?).map (a, ·))
    (hnews : r.news turn = (r.resolveAll a xs).flatMap Resolution.branches ++ bs)
    (hbs : (bs = [] ∧ ∃ x ∈ xs, x ≠ .absent) ∨
      (bs = [.terminated ⟨a.node, .introduced, none, none⟩] ∧ ∀ t, .failed t ∉ xs)) :
    r.Concludes turn a.node := by
  constructor
  · rw [hnews]
    rcases hbs with ⟨-, x, hx, hsome⟩ | ⟨rfl, -⟩
    · cases x with
      | absent => exact absurd rfl hsome
      | found m =>
        left
        rw [hlinks]
        exact List.ne_nil_of_mem ((Finding.mem_links (l := (a, m))).mpr ⟨rfl, hx⟩)
      | failed t =>
        have ht := (r.mem_branches a).mpr (.inl ⟨t, hx, rfl⟩)
        exact .inr ⟨t, List.mem_append_left _ ht, (hfits _ hx).1⟩
    · exact .inr ⟨_, List.mem_append_right _ (List.mem_singleton.mpr rfl), rfl⟩
  · intro t ht hnode
    rw [hnews] at ht ⊢
    rcases List.mem_append.mp ht with ht | ht
    · exact .inl (isFailure_of_mem_branches hfits ha ht hnode).2
    · rcases hbs with ⟨rfl, -⟩ | ⟨rfl, hnone⟩
      · cases ht
      · obtain rfl := Branch.terminated.inj (List.mem_singleton.mp ht)
        refine .inr ⟨rfl, fun u hu hnode' => ?_⟩
        rcases List.mem_append.mp hu with hu | hu
        · exact absurd (isFailure_of_mem_branches hfits ha hu hnode').1 (hnone u)
        · exact Branch.terminated.inj (List.mem_singleton.mp hu)
  · intro t hnode
    rw [hnews, hlinks, List.mem_append, mem_branches_elsewhere hfits hnode]
    refine or_iff_left fun ht => ?_
    rcases hbs with ⟨rfl, -⟩ | ⟨rfl, -⟩
    · cases ht
    · obtain rfl := Branch.terminated.inj (List.mem_singleton.mp ht)
      exact hnode rfl

theorem concludes_settle {xs : List (Finding α)} (hfits : ∀ x ∈ xs, x.Fits a)
    (ha : a.node < r.nodes.length)
    (hlinks : turn.links = (xs.filterMap Finding.match?).map (a, ·))
    (hnews : r.news turn = Walker.settle a (r.resolveAll a xs)) : r.Concludes turn a.node := by
  refine concludes_of_branches hfits ha hlinks hnews ?_
  by_cases habsent : ∀ x ∈ xs, x = .absent
  · exact .inr ⟨if_pos (all_absent.mpr habsent), fun t ht => nomatch habsent _ ht⟩
  · refine .inl ⟨if_neg (mt all_absent.mp habsent), ?_⟩
    simpa only [not_forall, exists_prop] using habsent

theorem orIntroduced_eq (bs : List Branch) : orIntroduced a bs =
    bs ++ if bs.isEmpty then [.terminated ⟨a.node, .introduced, none, none⟩] else [] := by
  unfold orIntroduced
  split
  · rename_i hempty
    rw [List.isEmpty_iff.mp hempty, List.nil_append]
  · rw [List.append_nil]

/-- A turn without parent versions, which introduces what other files do not hold either. -/
theorem concludes_fresh {xs : List (Finding α)} (hfits : ∀ x ∈ xs, x.Fits a)
    (hfine : ∀ t, .failed t ∉ xs) (ha : a.node < r.nodes.length) :
    r.Concludes (.fresh a xs) a.node := by
  refine concludes_of_branches hfits ha rfl (orIntroduced_eq _) ?_
  split
  · exact .inr ⟨rfl, hfine⟩
  · rename_i hsome
    refine .inl ⟨rfl, ?_⟩
    by_contra hnone
    have habsent : ∀ x ∈ xs, x = .absent := by
      simpa only [not_exists, not_and, not_not] using hnone
    exact hsome (List.isEmpty_iff.mpr (branches_of_absent habsent))

/-- A turn that could not read the parents of a version fails there, and nowhere else. -/
theorem concludes_lost (f : RepositoryFault) : r.Concludes (.lost a f) a.node where
  somehow := .inr ⟨_, List.mem_singleton.mpr rfl, rfl⟩
  alone := by
    intro t ht _
    obtain rfl := Branch.terminated.inj (List.mem_singleton.mp ht)
    exact .inl rfl
  elsewhere := by
    intro t hne
    refine iff_of_false (fun ht => ?_) fun ht => nomatch ht
    obtain rfl := Branch.terminated.inj (List.mem_singleton.mp ht)
    exact hne rfl

/-- Every turn that examines a version decides about its node. -/
theorem concludes (hturn : turn.Concerns first) (hfirst : first.open? = some a)
    (hexamined : turn.examined ≠ []) (ha : a.node < r.nodes.length) :
    r.Concludes turn a.node := by
  cases hturn with
  | ended | cut | postponed => exact absurd rfl hexamined
  | lost b f =>
    cases hfirst
    exact concludes_lost f
  | @fresh b xs hfits hmoves =>
    cases hfirst
    -- what is looked for in other files is there or not, and never fails
    refine concludes_fresh hfits (fun t ht => ?_) ha
    obtain ⟨moved, hmoved⟩ := hmoves _ ht
    cases moved <;> cases hmoved
  | followed hfits | resolved hfits =>
    cases hfirst
    exact concludes_settle hfits ha rfl rfl

theorem terminations_after (hexamined : turn.examined ≠ []) :
    (r.after first rest turn).1.terminations = r.terminations := by
  cases turn with
  | ended | cut | postponed => exact absurd rfl hexamined
  | lost => rfl
  | fresh a xs | followed a xs | resolved a xs => exact (r.absorbAll_frame a xs).1

theorem openNodes_examined (hexamined : turn.examined ≠ []) {i : Nat} :
    i ∈ openNodes (rest ++ r.news turn) ↔
      i ∈ openNodes rest ∨ i ∈ openNodes (r.openAll turn.links) := by
  rw [openNodes_append, r.openNodes_news turn fun b vs hpost => hexamined (by rw [hpost]; rfl),
    List.mem_append]

theorem endsWith_examined (hfirst : first.open? = some a) (hexamined : turn.examined ≠ []) :
    (r.after first rest turn).1.EndsWith (rest ++ r.news turn) t ↔
      r.EndsWith (first :: rest) t ∨ .terminated t ∈ r.news turn := by
  have hne : .terminated t ≠ first := by
    rintro rfl
    cases hfirst
  unfold EndsWith
  rw [terminations_after hexamined, List.mem_append, List.mem_cons, or_iff_right hne, or_assoc]

theorem leaves_examined (hturn : turn.Concerns first) (hfirst : first.open? = some a) :
    (r.after first rest turn).1.Leaves node ↔
      r.Leaves node ∨ (turn.links ≠ [] ∧ (a.node : Int) = node) := by
  have hsame : ∀ l ∈ turn.links, l.1 = a := fun l hl =>
    Option.some.inj ((hturn.open_first hl).1.symm.trans hfirst)
  unfold Leaves
  rw [(r.graph_after first rest turn).2]
  show (r.linkAll turn.links).Leaves node ↔ _
  rw [leaves_linkAll]
  refine or_congr_right ⟨?_, ?_⟩
  · rintro ⟨l, hl, hnode⟩
    rw [hsame l hl] at hnode
    exact ⟨List.ne_nil_of_mem hl, hnode⟩
  · rintro ⟨hsome, hnode⟩
    obtain ⟨l, hl⟩ := List.exists_mem_of_ne_nil _ hsome
    rw [← hsame l hl] at hnode
    exact ⟨l, hl, hnode⟩

/-- A version that nothing had happened to ends as the turn that examines it says. -/
theorem Untouched.endsWith_examined (h : r.Untouched (first :: rest) a.node)
    (hfirst : first.open? = some a) (hexamined : turn.examined ≠ []) (hnode : t.node = a.node) :
    (r.after first rest turn).1.EndsWith (rest ++ r.news turn) t ↔
      .terminated t ∈ r.news turn := by
  rw [Run.endsWith_examined hfirst hexamined]
  exact or_iff_right fun ht => h.endless t ht hnode

section Examined
variable {i : Nat} (hturn : turn.Concerns first) (hfirst : first.open? = some a)
  (hexamined : turn.examined ≠ []) (ha : a.node < r.nodes.length)
include hturn hfirst

theorem leaves_elsewhere (hne : i ≠ a.node) :
    (r.after first rest turn).1.Leaves i ↔ r.Leaves i := by
  rw [leaves_examined hturn hfirst]
  exact or_iff_left fun h => hne (Int.ofNat.inj h.2).symm

include hexamined ha

/-- At other nodes than the one that it examines a turn adds the ends of its matches. -/
theorem endsWith_elsewhere (hnode : t.node ≠ a.node) :
    (r.after first rest turn).1.EndsWith (rest ++ r.news turn) t ↔
      r.EndsWith (first :: rest) t ∨ .terminated t ∈ r.openAll turn.links := by
  rw [endsWith_examined hfirst hexamined, (concludes hturn hfirst hexamined ha).elsewhere t hnode]

/-- The turn settles the version that it examines. -/
theorem Untouched.settled_here (h : r.Untouched (first :: rest) a.node) :
    (r.after first rest turn).1.Settled (rest ++ r.news turn) a.node := by
  have hdecided := concludes hturn hfirst hexamined ha
  have hhere : ∀ t : Termination, t.node = a.node →
      ((r.after first rest turn).1.EndsWith (rest ++ r.news turn) t ↔
        .terminated t ∈ r.news turn) := fun _ => h.endsWith_examined hfirst hexamined
  constructor
  · rw [leaves_examined hturn hfirst]
    rcases hdecided.somehow with hlinks | ⟨t, ht, hnode⟩
    · exact .inl (.inr ⟨hlinks, rfl⟩)
    · exact .inr ⟨t, (hhere t hnode).mpr ht, hnode⟩
  · intro t ht hnode
    rcases hdecided.alone t ((hhere t hnode).mp ht) hnode with hfailure | ⟨hreason, hsole⟩
    · exact .inl hfailure
    · exact .inr ⟨fun u hu hnode' => hsole u ((hhere u hnode').mp hu) hnode', .inl hreason⟩

variable (hne : i ≠ a.node)
include hne

/-- The turn settles the nodes that are made for extractions. -/
theorem Untouched.settled_extracted (h : r.Untouched (first :: rest) (i : Int))
    (ht : .terminated t ∈ r.openAll turn.links) (hnode : t.node = (i : Int))
    (hsole : ∀ u : Termination, .terminated u ∈ r.openAll turn.links → u.node = (i : Int) →
      u = t) :
    (r.after first rest turn).1.Settled (rest ++ r.news turn) (i : Int) := by
  have hthere : ∀ u : Termination, u.node = (i : Int) →
      ((r.after first rest turn).1.EndsWith (rest ++ r.news turn) u ↔
        .terminated u ∈ r.openAll turn.links) := fun u hu => by
    rw [endsWith_elsewhere hturn hfirst hexamined ha (by omega)]
    exact or_iff_right fun hend => h.endless u hend hu
  constructor
  · exact .inr ⟨t, (hthere t hnode).mpr ht, hnode⟩
  · intro u hu hnode'
    obtain rfl := hsole u ((hthere u hnode').mp hu) hnode'
    refine .inr ⟨fun v hv hv' => hsole v ((hthere v hv').mp hv) hv', .inr ?_⟩
    rw [leaves_elsewhere hturn hfirst hne]
    exact h.edgeless

variable (hnone : ∀ t : Termination, .terminated t ∈ r.openAll turn.links → t.node ≠ (i : Int))
include hnone

theorem endsWith_of_elsewhere (hnode : t.node = (i : Int))
    (h : (r.after first rest turn).1.EndsWith (rest ++ r.news turn) t) :
    r.EndsWith (first :: rest) t := by
  rcases (endsWith_elsewhere hturn hfirst hexamined ha (by omega)).mp h with ht | ht
  · exact ht
  · exact absurd hnode (hnone t ht)

/-- Where the matches of a turn end no branch, an untouched node remains so. -/
theorem Untouched.elsewhere (h : r.Untouched (first :: rest) (i : Int)) :
    (r.after first rest turn).1.Untouched (rest ++ r.news turn) (i : Int) :=
  h.of_same (leaves_elsewhere hturn hfirst hne).mp fun _ =>
    endsWith_of_elsewhere hturn hfirst hexamined ha hne hnone

/-- So does a settled one. -/
theorem Settled.elsewhere (h : r.Settled (first :: rest) (i : Int)) :
    (r.after first rest turn).1.Settled (rest ++ r.news turn) (i : Int) := by
  refine h.of_same (leaves_elsewhere hturn hfirst hne)
    (fun _ => endsWith_of_elsewhere hturn hfirst hexamined ha hne hnone) ?_
  rintro ⟨t, ht, hnode⟩
  exact ⟨t, (endsWith_examined hfirst hexamined).mpr (.inl ht), hnode⟩

end Examined

/-- Examining a version keeps the account: it settles the node of the version, and the nodes
that it makes are open or ends of extractions. -/
theorem Accounted.examine (h : r.Accounted (first :: rest)) (hturn : turn.Concerns first)
    (hfirst : first.open? = some a) (hexamined : turn.examined ≠ [])
    (hnodup : (openNodes (first :: rest)).Nodup)
    (hbound : ∀ i ∈ openNodes (first :: rest), i < r.nodes.length) :
    (r.after first rest turn).1.Accounted (rest ++ r.news turn) := by
  have hopen := openNodes_cons hfirst rest
  have ha := hbound a.node (hopen ▸ List.mem_cons_self)
  have hnodes := r.nodes_after first rest turn
  have hgrow := nodes_linkAll_length (r := r) turn.links
  constructor
  · intro i hi
    rcases (openNodes_examined hexamined).mp hi with hi | hi
    · -- it was open before
      have hmem : i ∈ openNodes (first :: rest) := hopen ▸ List.mem_cons_of_mem _ hi
      have hne : i ≠ a.node := by
        rintro rfl
        exact (List.nodup_cons.mp (hopen ▸ hnodup)).1 hi
      exact (h.pending i hmem).elsewhere hturn hfirst hexamined ha hne
        (vacant_openAll (hbound i hmem)).endless
    · -- a match has made it
      obtain ⟨hlow, hhigh⟩ := (open_openAll turn.links).2 i hi
      cases taken_openAll hlow hhigh with
      | opened _ hends =>
        exact (h.unborn i hlow).elsewhere hturn hfirst hexamined ha (by omega) hends
      | extracted hclosed => exact absurd hi hclosed
  · intro i hi
    rw [hnodes] at hi
    refine (h.unborn i (by omega)).elsewhere hturn hfirst hexamined ha (by omega) fun t ht => ?_
    have := (node_of_mem_openAll ht).2
    omega
  · intro i hi hclosed
    rw [hnodes] at hi
    have hclosed := mt (openNodes_examined hexamined).mpr hclosed
    by_cases hne : i = a.node
    · -- the version that the turn examined
      subst hne
      exact (h.pending a.node (hopen ▸ List.mem_cons_self)).settled_here hturn hfirst hexamined ha
    by_cases hlt : i < r.nodes.length
    · -- a node that was settled before
      have hmem : i ∉ openNodes (first :: rest) := by
        rw [hopen]
        rintro (_ | ⟨_, hmem⟩)
        · exact hne rfl
        · exact hclosed (.inl hmem)
      exact (h.closed i hlt hmem).elsewhere hturn hfirst hexamined ha hne
        (vacant_openAll hlt).endless
    · -- a node that an extraction has made
      have hlow : r.nodes.length ≤ i := Nat.not_lt.mp hlt
      cases taken_openAll hlow hi with
      | opened hmem => exact absurd (.inr hmem) hclosed
      | extracted _ t ht hnode _ hsole =>
        exact (h.unborn i hlow).settled_extracted hturn hfirst hexamined ha hne ht hnode hsole

/-! ### Turns -/

/-- At the start there is only the seed, and it is open. -/
theorem accounted_ofSeed {seed : Active} (hseed : seed.node = 0) :
    (ofSeed seed : Run α).Accounted [.active seed] := by
  have huntouched : ∀ node, (ofSeed seed : Run α).Untouched [.active seed] node := by
    intro node
    constructor
    · rintro ⟨e, he, -⟩
      cases he
    · rintro t (ht | ht)
      · cases ht
      · exact nomatch List.mem_singleton.mp ht
  constructor
  · exact fun i _ => huntouched i
  · exact fun i _ => huntouched i
  · intro i hi hclosed
    obtain rfl : i = 0 := Nat.lt_one_iff.mp hi
    exact absurd (List.mem_singleton.mpr hseed.symm) hclosed

/-- A version that is put off is still open. -/
theorem Accounted.postpone {vs : List ParentVersion} (h : r.Accounted (.active a :: rest)) :
    (r.expanded a).Accounted (rest ++ [.branching a vs]) := by
  refine h.of_same rfl rfl (fun i => ?_) fun t => or_congr_right ?_
  · show i ∈ openNodes (rest ++ [.branching a vs]) ↔ i ∈ a.node :: openNodes rest
    rw [openNodes_append]
    exact (List.perm_append_singleton a.node (openNodes rest)).mem_iff
  · show .terminated t ∈ rest ++ [.branching a vs] ↔ _
    simp

/-- Every turn keeps the account. -/
theorem Accounted.after (h : r.Accounted (first :: rest)) (hturn : turn.Concerns first)
    (hnodup : (openNodes (first :: rest)).Nodup)
    (hbound : ∀ i ∈ openNodes (first :: rest), i < r.nodes.length) :
    (r.after first rest turn).1.Accounted (r.after first rest turn).2 := by
  by_cases hexamined : turn.examined = []
  · cases hturn with
    | ended t => exact h.finish
    | cut a =>
      have hflag : ({ r with budgetExceeded := true } : Run α).Accounted (.active a :: rest) :=
        h.of_same rfl rfl (fun _ => Iff.rfl) fun _ => Iff.rfl
      exact hflag.cut hbound
    | postponed a vs => exact h.postpone
    | lost | fresh | followed | resolved => cases hexamined
  · obtain ⟨a, hfirst, -⟩ := hturn.open_of_examined hexamined
    have hall := h.examine hturn hfirst hexamined hnodup hbound
    rcases r.after_work rest hturn with hnews | ⟨-, b, -, rfl⟩
    · rwa [hnews]
    · exact absurd rfl hexamined

end Run

/-! ### Replays -/

variable {seed : Active} {log : List (Turn α)} {r : Run α} {work : List Branch}

/-- **All nodes of a walk are accounted for**: a version is still to be examined, or it has an
edge or an end. -/
theorem Replay.accounted (h : Replay seed log r work) : r.Accounted work := by
  induction h with
  | seed hseed => exact Run.accounted_ofSeed hseed
  | @turn log r r' first rest work turn before hturn hafter ih =>
    obtain ⟨hnodup, hbound⟩ := before.examined_once
    have hall := ih.after hturn hnodup.of_append_right fun i hi =>
      hbound i (List.mem_append_right _ hi)
    rwa [← hafter] at hall

/-- What tells the ends of branches apart. -/
def Termination.key (t : Termination) : Int × TerminationReason × Option String :=
  (t.node, t.reason, t.commitId)

theorem Run.nodup_finish {r : Run α} {t : Termination}
    (h : (r.terminations.map Termination.key).Nodup) :
    ((r.finish t).terminations.map Termination.key).Nodup := by
  unfold finish
  split
  · exact h
  · rename_i hnew
    show ((r.terminations ++ [t]).map Termination.key).Nodup
    rw [List.map_append]
    refine h.append (List.nodup_singleton t.key) fun key hold hkey => hnew ?_
    obtain rfl := List.mem_singleton.mp hkey
    obtain ⟨u, hu, hsame⟩ := List.mem_map.mp hold
    obtain ⟨hnode, hsame⟩ := Prod.mk.inj hsame
    obtain ⟨hreason, hcommit⟩ := Prod.mk.inj hsame
    exact List.any_eq_true.mpr ⟨u, hu, decide_eq_true ⟨hnode, hreason, hcommit⟩⟩

/-- **No end is recorded twice**: of two ends at one node the reasons or the commits differ. -/
theorem Replay.ends_apart (h : Replay seed log r work) :
    (r.terminations.map Termination.key).Nodup := by
  induction h with
  | seed _ => exact List.nodup_nil
  | @turn log r r' first rest work turn _ hturn hafter ih =>
    have hr' : r' = (r.after first rest turn).1 := congrArg Prod.fst hafter
    rw [hr']
    by_cases hexamined : turn.examined = []
    · cases hturn with
      | ended t => exact Run.nodup_finish ih
      | cut a =>
        have hall : ∀ (bs : List Branch) (r : Run α), (r.terminations.map Termination.key).Nodup →
            ((bs.foldl (fun r b => r.finish b.cut) r).terminations.map Termination.key).Nodup := by
          intro bs
          induction bs with
          | nil => exact fun _ => id
          | cons b bs hbs => exact fun r hr => hbs _ (Run.nodup_finish hr)
        exact hall (.active a :: rest) { r with budgetExceeded := true } ih
      | postponed => exact ih
      | lost | fresh | followed | resolved => cases hexamined
    · rw [Run.terminations_after hexamined]
      exact ih

/-! ### Histories -/

theorem History.mem_reasonsAt {h : History α} {node : Int} {why : TerminationReason} :
    why ∈ h.reasonsAt node ↔ ∃ t ∈ h.terminations, t.node = node ∧ t.reason = why := by
  unfold History.reasonsAt
  rw [List.mem_map]
  refine exists_congr fun t => ?_
  rw [List.mem_filter, decide_eq_true_iff, and_assoc]

/-- **No branch is lost.**  Whatever the repository answers and however the walk ends, each node
of a history has an edge to an earlier version or an end.  Where a branch stopped at an
extraction or at the end of the budget there is no edge, and an end that is no failure to
read or parse is the only one of its node. -/
theorem every_branch_ends [Score α] {w : Walker σ α} {fuel : Nat} {commit : Commit} {path : String}
    {m : Model} {e : Element} {x x' : Session σ} {h : History α}
    (hh : w.history fuel commit path m e x = (.ok h, x')) (n : HistoryNode) (hn : n ∈ h.nodes) :
    (h.outgoing n.index ≠ [] ∨ h.reasonsAt n.index ≠ []) ∧
    (.extracted ∈ h.reasonsAt n.index ∨ .budgetExceeded ∈ h.reasonsAt n.index →
      h.outgoing n.index = []) ∧
    ∀ why ∈ h.reasonsAt n.index,
      why = .introduced ∨ why = .extracted ∨ why = .budgetExceeded →
        h.reasonsAt n.index = [why] := by
  obtain ⟨s, rfl, hreplay⟩ := Walker.replay_of_history hh
  have honce : s.run.terminations.Nodup := hreplay.ends_apart.of_map
  obtain ⟨i, hi, hindex, -⟩ := hreplay.records.index_lt hn
  have hsettled := hreplay.accounted.closed i hi List.not_mem_nil
  rw [← hindex] at hsettled
  have hends : ∀ t, s.run.graph.EndsWith [] t ↔ t ∈ s.run.terminations := fun t =>
    or_iff_left fun ht => nomatch ht
  have hleaves : s.run.graph.Leaves n.index ↔ s.run.toHistory.outgoing n.index ≠ [] := by
    simp only [Run.Leaves, History.outgoing, ne_eq, List.filter_eq_nil_iff, decide_eq_true_iff,
      not_forall, not_not, exists_prop]
    exact Iff.rfl
  -- an end that is no failure stands alone
  have halone : ∀ why ∈ s.run.toHistory.reasonsAt n.index, why.isFailure = false →
      s.run.toHistory.reasonsAt n.index = [why] ∧
        (why = .introduced ∨ s.run.toHistory.outgoing n.index = []) := by
    intro why hwhy hfine
    obtain ⟨t, ht, hnode, rfl⟩ := History.mem_reasonsAt.mp hwhy
    rcases hsettled.alone t ((hends t).mpr ht) hnode with hfailure | ⟨hsole, hedges⟩
    · exact absurd (hfine.symm.trans hfailure) Bool.false_ne_true
    · have hone : s.run.terminations.filter (·.node = n.index) = [t] := by
        refine List.perm_singleton.mp ((List.perm_ext_iff_of_nodup (honce.filter _)
          (List.nodup_singleton t)).mpr fun u => ?_)
        rw [List.mem_filter, List.mem_singleton, decide_eq_true_iff]
        exact ⟨fun ⟨hu, hnode'⟩ => hsole u ((hends u).mpr hu) hnode', fun heq => heq ▸ ⟨ht, hnode⟩⟩
      rw [hleaves, not_not] at hedges
      exact ⟨congrArg (List.map Termination.reason) hone, hedges⟩
  refine ⟨?_, ?_, ?_⟩
  · rcases hsettled.somehow with hedge | ⟨t, ht, hnode⟩
    · exact .inl (hleaves.mp hedge)
    · exact .inr (List.ne_nil_of_mem (History.mem_reasonsAt.mpr ⟨t, (hends t).mp ht, hnode, rfl⟩))
  · rintro (hstop | hstop)
    · exact (halone _ hstop rfl).2.resolve_left (by decide)
    · exact (halone _ hstop rfl).2.resolve_left (by decide)
  · rintro why hwhy (rfl | rfl | rfl)
    · exact (halone _ hwhy rfl).1
    · exact (halone _ hwhy rfl).1
    · exact (halone _ hwhy rfl).1

/-- Of the parents of a merge one cannot be read, one cannot be parsed, one has only what a
function was extracted from, and one adds the function. -/
def brokenSides : Archive :=
  let old := "def old(a):\n    return a\n"
  let new := "def new(a):\n    return a\n"
  { commits := [
      { id := "a", files := [("x.py", new.toUTF8.toList)], committed := 1 },
      { id := "b", files := [("x.py", "def (\n".toUTF8.toList)], committed := 2 },
      { id := "c", files := [("x.py", old.toUTF8.toList)], committed := 3 },
      { id := "d", files := [("x.py", (new ++ old).toUTF8.toList)], committed := 4 },
      { id := "m", parents := ["a", "b", "c", "d"], files := [("x.py", (new ++ old).toUTF8.toList)],
        committed := 5 }]
    head := "m"
    damage := { blobs := [("a", "x.py")] } }

theorem brokenSides_tells :
    (brokenSides.tracker "x.py" (.methodAt "new" 1)).tells ⟨brokenSides, {}, []⟩ (fun h =>
      h.nodes.map (fun n => (n.commitId, h.reasonsAt n.index, (h.outgoing n.index).map (·.target)))
        = [("m", [.repositoryError, .unparseable], [1, 2]), ("c", [.extracted], []),
            ("d", [.introduced], [])]) = true := by
  decide +kernel

theorem every_branch_ends_brokenSides : ∃ fuel commit m e x x' h,
    (brokenSides.tracker "x.py" (.methodAt "new" 1)).walker.history fuel commit "x.py" m e x
      = (.ok h, x') ∧ h.nodes.length = 3 ∧
    ∀ n ∈ h.nodes, (h.outgoing n.index ≠ [] ∨ h.reasonsAt n.index ≠ []) ∧
      (.extracted ∈ h.reasonsAt n.index ∨ .budgetExceeded ∈ h.reasonsAt n.index →
        h.outgoing n.index = []) ∧
      ∀ why ∈ h.reasonsAt n.index,
        why = .introduced ∨ why = .extracted ∨ why = .budgetExceeded →
          h.reasonsAt n.index = [why] := by
  obtain ⟨h, x', ht, hfacts⟩ := Tracker.exists_of_tells brokenSides_tells
  obtain ⟨commit, m, e, x, -, hh⟩ := Tracker.history_of_track ht
  have hlength := congrArg List.length (of_decide_eq_true hfacts)
  rw [List.length_map] at hlength
  exact ⟨_, commit, m, e, x, x', h, hh, hlength, every_branch_ends hh⟩

end Lineage
