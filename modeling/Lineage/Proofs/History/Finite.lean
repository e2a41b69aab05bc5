import Lineage.Proofs.History.Accounts
import Lineage.Proofs.History.Alike
import Lineage.Proofs.History.Introduction

/-! # Walks over finitely many versions

A walk examines no version twice, and each turn examines a version for good, leaves fewer active
branches, or as many of them and fewer branches in all (`Run.fewer_after`).  So a walk comes to an
end if it has finitely many versions to record (`Account.Holds.comes_to_end`), by any account that
bounds them.  The bound may depend on the cache, if it can grow only finitely often.
-/
namespace Lineage
variable {σ α : Type}

/-- How many branches of a work list are active. -/
def activeCount (work : List Branch) : Nat := (work.filterMap Branch.active?).length

/-- A turn examines a version for good, or leaves fewer active branches, or as many and fewer
branches in all. -/
theorem Run.fewer_after (r : Run α) {first : Branch} (rest : List Branch) {turn : Turn α}
    (hturn : turn.Concerns first) :
    turn.examined.length = 1 ∨ turn.examined = [] ∧
      (activeCount (r.after first rest turn).2 < activeCount (first :: rest) ∨
        activeCount (r.after first rest turn).2 = activeCount (first :: rest) ∧
          (r.after first rest turn).2.length < (first :: rest).length) := by
  cases hturn with
  | lost | fresh | followed | resolved => exact .inl rfl
  | ended t => exact .inr ⟨rfl, .inr ⟨rfl, Nat.lt_succ_self _⟩⟩
  | cut a => exact .inr ⟨rfl, .inl (Nat.zero_lt_succ _)⟩
  | postponed a vs =>
    refine .inr ⟨rfl, .inl ?_⟩
    show activeCount (rest ++ [.branching a vs]) < activeCount (.active a :: rest)
    unfold activeCount
    rw [List.filterMap_append]
    simp [Branch.active?]

section Ends
variable {seed : Active} {log : List (Turn α)} {r : Run α} {work : List Branch}
  {keys : List VersionKey}

/-- The keys of versions are distinct, and none of them is examined twice; so no more versions are
examined than there are keys. -/
theorem Replay.examined_length_le (h : Replay seed log r work)
    (hkeys : ∀ n ∈ r.nodes, n.key ∈ keys) : (log.flatMap Turn.examined).length ≤ keys.length := by
  obtain ⟨hnodup, hbound⟩ := h.examined_once
  have hexamined : (log.flatMap Turn.examined).length ≤ (List.range r.nodes.length).length :=
    hnodup.of_append_left.length_le_of_subset fun i hi =>
      List.mem_range.mpr (hbound i (List.mem_append_left _ hi))
  have hnodes : (r.nodes.map HistoryNode.key).length ≤ keys.length :=
    h.records.keys.length_le_of_subset fun key hkey => by
      obtain ⟨n, hn, rfl⟩ := List.mem_map.mp hkey
      exact hkeys n hn
  rw [List.length_range] at hexamined
  rw [List.length_map] at hnodes
  exact Nat.le_trans hexamined hnodes

namespace Walker
open Walk
variable [Score α] {w : Walker σ α} {x : Session σ} {s : WalkState σ α}

/-- A step examines one of finitely many versions for good, or makes the work list smaller. -/
theorem smaller_step {n : Nat} {log : List (Turn α)} {first : Branch} {rest work : List Branch}
    {s s' : WalkState σ α} (hstep : w.step first rest s = (.ok work, s'))
    (hbound : ((log ++ [w.turn first s]).flatMap Turn.examined).length ≤ n) :
    Prod.Lex (· < ·) (Prod.Lex (· < ·) (· < ·))
      (n - ((log ++ [w.turn first s]).flatMap Turn.examined).length, activeCount work, work.length)
      (n - (log.flatMap Turn.examined).length, activeCount (first :: rest),
        (first :: rest).length) := by
  have hwork : work = (s.run.graph.after first rest (w.turn first s)).2 :=
    congrArg Prod.snd (w.step_turn hstep)
  rw [List.flatMap_append, List.flatMap_singleton, List.length_append] at hbound ⊢
  rw [hwork]
  rcases s.run.graph.fewer_after rest (w.turn_concerns first s) with hone | ⟨hnone, hless⟩
  · rw [hone] at hbound ⊢
    exact Prod.Lex.left _ _ (by omega)
  · rw [hnone, List.length_nil, Nat.add_zero]
    exact Prod.Lex.right _ (Prod.lex_def.mpr hless)
end Walker

/-- **A walk over finitely many versions comes to an end**: from some number of steps on it is done
or has stopped, and more steps change nothing. -/
theorem Account.Holds.comes_to_end [Score α] {A : Account σ α} {w : Walker σ α} {x : Session σ}
    (hA : A.Holds w) (hhalts : ¬ A.halts .unfinished)
    (keys : Cache → List VersionKey) (rank : Cache → Nat)
    (hkeys : ∀ s, A.state s → ∀ n ∈ s.run.nodes, n.key ∈ keys s.session.cache)
    (hrank : ∀ c c', c.Sub c' → (keys c' = keys c ∧ rank c' = rank c) ∨ rank c' < rank c)
    (hseed : seed.node = 0) {log : List (Turn α)} {s : WalkState σ α} {work : List Branch}
    (h : w.Walked seed x log s work) (hs : A.state s) :
    ∃ n, Walker.told (w.steps n work s) ≠ .error .unfinished ∧
      ∀ fuel, n ≤ fuel → w.steps fuel work s = w.steps n work s := by
  match work with
  | [] =>
    refine ⟨0, nofun, fun fuel _ => ?_⟩
    cases fuel <;> rfl
  | first :: rest =>
    have hupholds := hA.step (c := s.session.cache) (hA.names h first List.mem_cons_self) rest
    rcases hstep : w.step first rest s with ⟨stop | work', s'⟩
    · -- the step stops, and the walk with it
      have hwhy := hupholds.stops s stop hs (Cache.sub_refl _) (congrArg Prod.fst hstep)
      have hstopped : ∀ fuel, w.steps (fuel + 1) (first :: rest) s = (.error stop, s') := by
        intro fuel
        rw [Walker.steps, Walk.bind_apply, hstep]
      refine ⟨1, ?_, fun fuel hfuel => ?_⟩
      · rw [hstopped 0]
        exact fun heq => hhalts (Except.error.inj heq ▸ hwhy)
      · obtain ⟨k, rfl⟩ := Nat.exists_eq_add_of_le' hfuel
        rw [hstopped, hstopped]
    · have hnext := h.step hstep
      have hkept : A.state s' ∧ s.session.cache.Sub s'.session.cache := by
        have hkept := hupholds.keeps s hs (Cache.sub_refl _)
        rwa [hstep] at hkept
      obtain ⟨n, htold, hn⟩ :=
        Account.Holds.comes_to_end hA hhalts keys rank hkeys hrank hseed hnext hkept.1
      have hmore : ∀ fuel, w.steps (fuel + 1) (first :: rest) s = w.steps fuel work' s' := by
        intro fuel
        rw [Walker.steps, Walk.bind_apply, hstep]
      refine ⟨n + 1, hmore n ▸ htold, fun fuel hfuel => ?_⟩
      obtain ⟨k, rfl⟩ := Nat.exists_eq_add_of_le' (Nat.le_trans (Nat.le_add_left 1 n) hfuel)
      rw [hmore, hmore]
      exact hn k (by omega)
-- the bound grows, a version is examined, or the work list gets smaller
termination_by (rank s.session.cache,
  (keys s.session.cache).length - (log.flatMap Turn.examined).length, activeCount work, work.length)
decreasing_by
  have hbound := (hnext.replay hseed).examined_length_le (hkeys s' hkept.1)
  rcases hrank _ _ hkept.2 with ⟨hsame, hequal⟩ | hless
  · rw [hsame] at hbound
    rw [hsame, hequal]
    exact Prod.Lex.right _ (Walker.smaller_step hstep hbound)
  · exact Prod.Lex.left _ _ hless

end Ends
end Lineage
