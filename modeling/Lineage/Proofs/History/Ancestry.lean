import Lineage.Proofs.History.Introduction
import Lineage.Proofs.History.Walks
import Lineage.Proofs.Repository.Fixed

/-! # Histories lead back in time

A walk goes from a version to versions at the commits that the repository names: those of
the previous versions of a file, and those that parents are resolved to.  If all of them
are strict ancestors of the commit that was asked about, then each match lies at a strict
ancestor of the commit of the version that it was found for, and the parents of the match
are again named rightly, so the next turn starts from the same situation
(`Walker.Walked.back`).  An edge connects the nodes of a version and of its match, also
where it leads to a node that another branch has made before; so it leads from a commit to
a strict ancestor, and no path along edges comes back to where it started
(`edges_lead_back`).
-/
namespace Lineage
variable {σ α : Type}

/-! ### What the repository names -/

/-- The parents of a commit are older than it. -/
def Commit.LeadsBack (older : String → String → Prop) (c : Commit) : Prop :=
  ∀ p ∈ c.parentIds, older p c.id

/-- A previous version of a file and the parent that it was found from are older than a commit. -/
structure ParentVersion.LeadsBack (older : String → String → Prop) (id : String)
    (v : ParentVersion) : Prop where
  commit : older v.commit.id id
  viaParent : older v.viaParent id
  parents : v.commit.LeadsBack older

/-- All that a repository names as earlier than a commit is older: the previous versions of its
files, and the commits that parents are resolved to. -/
structure Repository.LeadsBack (r : Repository σ) (older : String → String → Prop) : Prop where
  touching : ∀ id path v, r.Touches id path v → v.LeadsBack older id
  resolving : ∀ id child c, older id child → r.Resolves id c → c.id = id ∧ c.LeadsBack older

variable {older : String → String → Prop}

/-- What was matched is at a commit that is older than that of the version it was found for. -/
structure Match.LeadsBack (older : String → String → Prop) (a : Active) (m : Match α) : Prop where
  commit : older m.commit.id a.commit.id
  parents : m.commit.LeadsBack older

/-- An open branch names older commits only. -/
def Branch.LeadsBack (older : String → String → Prop) : Branch → Prop
  | .active a => a.commit.LeadsBack older
  | .branching a vs => a.commit.LeadsBack older ∧ ∀ v ∈ vs, v.LeadsBack older a.commit.id
  | .terminated _ => True

/-- A turn finds older versions only, and the versions that it postpones are older. -/
structure Turn.LeadsBack (older : String → String → Prop) (turn : Turn α) : Prop where
  links : ∀ l ∈ turn.links, l.2.LeadsBack older l.1
  postponed : ∀ a vs, turn = .postponed a vs → (Branch.branching a vs).LeadsBack older

theorem Match.At.leadsBack [Score α] {c : MatchingConfig α} {r : Repository σ}
    (hr : r.LeadsBack older) {m : Match α} {a : Active}
    {id : String} {parent : Commit} (hid : older id a.commit.id) (hparent : r.Resolves id parent)
    (h : m.At c a parent) : m.LeadsBack older a := by
  obtain ⟨rfl, hparents⟩ := hr.resolving id _ parent hid hparent
  rw [← h.commit] at hid hparents
  exact ⟨hid, hparents⟩

namespace Walker
variable [Score α] {w : Walker σ α} {a : Active}

/-! ### Turns lead back -/

omit [Score α] in
/-- The parent versions in which matches are looked for are older, if the branch names older
commits. -/
theorem leadsBack_of_offers (hr : w.repository.LeadsBack older) {first : Branch}
    (hfirst : first.LeadsBack older) {v : ParentVersion} (h : first.Offers w.repository a v) :
    v.LeadsBack older a.commit.id := by
  cases h with
  | pending hv => exact hfirst.2 v hv
  | touching hv => exact hr.touching _ _ v hv

/-- An open branch that names older commits has a turn that leads back. -/
theorem leadsBack_turn (hr : w.repository.LeadsBack older) {first : Branch}
    (hfirst : first.LeadsBack older) (s : WalkState σ α) : (w.turn first s).LeadsBack older := by
  refine ⟨fun l hl => ?_, fun a vs h => ?_⟩
  · rcases source_of_mem_links hl with
      ⟨v, hv, hat | ⟨parent, hresolved, hat⟩⟩ | ⟨rfl, p, hp, parent, hresolved, hat⟩
    · have hback := leadsBack_of_offers hr hfirst hv
      exact ⟨hat.commit ▸ hback.commit, hat.commit ▸ hback.parents⟩
    · exact hat.leadsBack hr (leadsBack_of_offers hr hfirst hv).viaParent hresolved
    · exact hat.leadsBack hr (hfirst p hp) hresolved
  · obtain ⟨rfl, htouches⟩ := touches_of_postponed h
    exact ⟨hfirst, fun v hv => hr.touching _ _ v (htouches v hv)⟩

/-- **All that a walk goes through leads back**: the open branches name older commits, and all
matches are at older commits. -/
theorem Walked.back (hr : w.repository.LeadsBack older) {seed : Active} {x : Session σ}
    {log : List (Turn α)} {s : WalkState σ α} {work : List Branch}
    (hseed : seed.commit.LeadsBack older) (h : w.Walked seed x log s work) :
    ∀ turn ∈ log, turn.LeadsBack older := by
  have hall : (∀ b ∈ work, b.LeadsBack older) ∧ ∀ turn ∈ log, turn.LeadsBack older := by
    refine h.forall_turns hseed (fun _ => trivial) ?_ ?_ ?_
    · exact fun _ _ hfirst => leadsBack_turn hr hfirst _
    · exact fun a vs hturn => hturn.postponed a vs rfl
    · exact fun _ hturn l hl _ => (hturn.links l hl).parents
  exact hall.2

end Walker

/-! ### Edges lead back -/

/-- Each edge leads to a node at an older commit. -/
theorem Walker.Walked.edges_older [Score α] {w : Walker σ α} {seed : Active} {x : Session σ}
    {log : List (Turn α)} {s : WalkState σ α} {work : List Branch}
    (h : w.Walked seed x log s work) (hseed : seed.node = 0) (hr : w.repository.LeadsBack older)
    (hcommit : seed.commit.LeadsBack older) :
    ∀ e ∈ s.run.edges, ∃ n ∈ s.run.nodes, ∃ n' ∈ s.run.nodes,
      n.index = e.source ∧ n'.index = e.target ∧ older n'.commitId n.commitId := by
  intro e he
  obtain ⟨l, hl, n, hn, n', hn', hsource, hkey, htarget, hkey'⟩ := (h.replay hseed).edge_ends he
  obtain ⟨turn, hturn, hl⟩ := List.mem_flatMap.mp hl
  have hle := ((h.back hr hcommit turn hturn).links l hl).commit
  have hcommit : n.commitId = l.1.commit.id := congrArg VersionKey.commitId hkey
  have hcommit' : n'.commitId = l.2.commit.id := congrArg VersionKey.commitId hkey'
  rw [← hcommit, ← hcommit'] at hle
  exact ⟨n, hn, n', hn', hsource, htarget, hle⟩

/-- **A history leads back in time.**  If all that a repository names as earlier than a commit is a
strict ancestor of it, then each edge of a history leads from a node to one at a strict ancestor,
whatever else the repository answers; and no path along edges is a cycle. -/
theorem edges_lead_back [Score α] {w : Walker σ α} [IsStrictOrder String older] {fuel : Nat}
    {commit : Commit} {path : String} {m : Model} {e : Element} {x x' : Session σ} {h : History α}
    (hr : w.repository.LeadsBack older) (hcommit : commit.LeadsBack older)
    (hh : w.history fuel commit path m e x = (.ok h, x')) :
    (∀ e ∈ h.edges, ∃ n ∈ h.nodes, ∃ n' ∈ h.nodes,
      n.index = e.source ∧ n'.index = e.target ∧ older n'.commitId n.commitId) ∧
    ∀ i, ¬ Relation.TransGen h.Edge i i := by
  obtain ⟨s, rfl, hwalked⟩ := Walker.walked_of_history hh
  have hreplay := hwalked.replay rfl
  have hedges := hwalked.edges_older rfl hr hcommit
  -- a path leads from a node to one at a strict ancestor, so its ends are different
  have hpaths : ∀ {i j : Int}, Relation.TransGen s.run.toHistory.Edge i j →
      ∃ n ∈ s.run.nodes, ∃ n' ∈ s.run.nodes,
        n.index = i ∧ n'.index = j ∧ older n'.commitId n.commitId := by
    intro i j hpath
    induction hpath with
    | single hedge =>
      obtain ⟨e, he, rfl, rfl⟩ := hedge
      exact hedges e he
    | tail _ hedge ih =>
      obtain ⟨e, he, hsource, rfl⟩ := hedge
      obtain ⟨n, hn, n₁, hn₁, hi, hmid, hle⟩ := ih
      obtain ⟨n₂, hn₂, n', hn', hmid', hj, hle'⟩ := hedges e he
      obtain rfl := hreplay.records.eq_of_index hn₁ hn₂ (hmid.trans (hsource.symm.trans hmid'.symm))
      exact ⟨n, hn, n', hn', hi, hj, IsTrans.trans _ _ _ hle' hle⟩
  refine ⟨hedges, fun i hcycle => ?_⟩
  obtain ⟨n, hn, n', hn', hi, hi', hle⟩ := hpaths hcycle
  obtain rfl := hreplay.records.eq_of_index hn hn' (hi.trans hi'.symm)
  exact irrefl _ hle

/-! ### A stored graph -/

/-- A stored graph names older commits if the parents that it stores are older, and `HEAD` is the
name of no parent. -/
theorem Archive.leadsBack_fixed {a : Archive}
    (hparents : ∀ c ∈ a.commits, ∀ p ∈ c.parents, older p c.id)
    (hhead : ∀ child, ¬ older "HEAD" child) : a.fixed.LeadsBack older := by
  have hresolving : ∀ id child c, older id child → a.fixed.Resolves id c →
      c.id = id ∧ c.LeadsBack older := by
    intro id child c hid hc
    obtain ⟨record, hrecord, hidOf, rfl⟩ := resolves_fixed hc
    have hne : id ≠ "HEAD" := fun heq => hhead child (heq ▸ hid)
    refine ⟨hidOf.trans (if_neg ?_), hparents record hrecord⟩
    exact fun h => hne (eq_of_beq h)
  refine ⟨fun id path v hv => ?_, hresolving⟩
  obtain ⟨record, hrecord, rfl, hparent, hcommit, -⟩ := touches_fixed hv
  have hvia := hparents record hrecord v.viaParent hparent
  have hresolves : a.fixed.Resolves v.viaParent v.commit :=
    ⟨(), congrArg (Except.mapError Refusal.fault) hcommit⟩
  obtain ⟨hid, hback⟩ := hresolving v.viaParent record.id v.commit hvia hresolves
  exact ⟨hid ▸ hvia, hvia, hback⟩

/-- The order in which a list names identifiers. -/
def olderIn (ids : List String) (p c : String) : Prop := ids.idxOf p < ids.idxOf c

instance (ids : List String) (p c : String) : Decidable (olderIn ids p c) :=
  inferInstanceAs (Decidable (_ < _))

instance (ids : List String) : IsStrictOrder String (olderIn ids) where
  irrefl _ := Nat.lt_irrefl _
  trans _ _ _ := Nat.lt_trans

/-- An identifier that is not named is not older than another one. -/
theorem not_olderIn {ids : List String} {p c : String} (hp : p ∉ ids) : ¬ olderIn ids p c := by
  rw [olderIn, List.idxOf_eq_length hp, Nat.not_lt]
  exact List.idxOf_le_length

/-- The start of the walk is the merge. -/
theorem addedTwice_fixed_tells :
    ((addedTwice.fixedTracker "x.py" (.methodAt "f" 1)).start? ⟨(), {}, []⟩).map
      (fun seed => (seed.1.commit.id, seed.1.commit.parentIds)) = some ("m", ["a", "b"]) ∧
    (addedTwice.fixedTracker "x.py" (.methodAt "f" 1)).tells ⟨(), {}, []⟩
      (fun h => h.edges.map (fun e => (e.source, e.target)) = [(0, 1), (0, 2), (1, 3), (2, 3)])
        = true := by
  decide +kernel

theorem edges_lead_back_addedTwice : ∃ older fuel commit m e x x' h,
    IsStrictOrder String older ∧
    (addedTwice.fixedTracker "x.py" (.methodAt "f" 1)).walker.repository.LeadsBack older ∧
    commit.LeadsBack older ∧
    (addedTwice.fixedTracker "x.py" (.methodAt "f" 1)).walker.history fuel commit "x.py" m e x
      = (.ok h, x') ∧ h.edges.length = 4 ∧
    (∀ e ∈ h.edges, ∃ n ∈ h.nodes, ∃ n' ∈ h.nodes,
      n.index = e.source ∧ n'.index = e.target ∧ older n'.commitId n.commitId) ∧
    ∀ i, ¬ Relation.TransGen h.Edge i i := by
  obtain ⟨h, x', ht, hfacts⟩ := Tracker.exists_of_tells addedTwice_fixed_tells.2
  obtain ⟨commit, m, e, x, hstart, hh⟩ := Tracker.history_of_track ht
  have hlength := congrArg List.length (of_decide_eq_true hfacts)
  rw [List.length_map] at hlength
  have hback : addedTwice.fixed.LeadsBack (olderIn ["r", "a", "b", "m"]) :=
    Archive.leadsBack_fixed (by decide) fun _ => not_olderIn (by decide)
  have hcommit : commit.LeadsBack (olderIn ["r", "a", "b", "m"]) := by
    have hseed := addedTwice_fixed_tells.1
    rw [hstart] at hseed
    obtain ⟨hid, hparents⟩ := Prod.mk.inj (Option.some.inj hseed)
    dsimp only at hid hparents
    rw [Commit.LeadsBack, hid, hparents]
    decide
  exact ⟨_, _, commit, m, e, x, x', h, inferInstance, hback, hcommit, hh, hlength,
    edges_lead_back hback hcommit hh⟩

end Lineage
