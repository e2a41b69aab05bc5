import Mathlib.Data.List.ProdSigma
import Lineage.Proofs.History.Accounts

/-! # What a walk has seen

The answers of a repository may change with its world, but a file at a commit is parsed at most
once: the cache gives the first model again, and its entries stay.  So each version that a walk
records is an element of a model that is in the cache from then on (`Walker.sightAccount`).

If all answers name commits and paths of two finite lists (`Repository.NamesOnly`), a walk has
seen finitely many versions at any time (`Cache.versions`).  It sees more of them only if a file
that had no entry gets one, and of such files there are fewer with each (`Cache.Sub.fewer`).
-/
namespace Lineage
variable {σ α : Type}

/-- All answers name commits and paths of two lists. -/
structure Repository.NamesOnly (r : Repository σ) (ids paths : List String) : Prop where
  resolve : ∀ id c, r.Resolves id c → c.id ∈ ids
  touching : ∀ id path v, r.Touches id path v → v.commit.id ∈ ids ∧ v.path ∈ paths
  changed : ∀ id parent s ps, (r.changedPaths id parent s).1 = .ok ps → ps ⊆ paths

/-! ### Versions in a cache -/

namespace Cache
variable {c c' : Cache} {keys : List CacheKey} {key : CacheKey} {m : Model}

/-- The versions that the model of a file has. -/
def versionsAt (c : Cache) (key : CacheKey) : List VersionKey :=
  match c.get? key with
  | some (.model m) => m.elements.toList.map fun e => ⟨key.1, key.2, e.lines⟩
  | some .unparseable | none => []

/-- The versions of all files that have a model. -/
def versions (c : Cache) (keys : List CacheKey) : List VersionKey := keys.flatMap c.versionsAt

/-- The number of files that have no entry. -/
def unseen (c : Cache) (keys : List CacheKey) : Nat := keys.countP fun key => !c.contains key

theorem mem_versions (hkey : key ∈ keys) (hm : c.get? key = some (.model m)) {e : Element}
    (he : e ∈ m.elements.toList) : ⟨key.1, key.2, e.lines⟩ ∈ c.versions keys := by
  refine List.mem_flatMap.mpr ⟨key, hkey, ?_⟩
  rw [versionsAt, hm]
  exact List.mem_map_of_mem he

theorem Sub.versions (h : c.Sub c') : c.versions keys ⊆ c'.versions keys := by
  intro v hv
  obtain ⟨key, hkey, hv⟩ := List.mem_flatMap.mp hv
  unfold versionsAt at hv
  split at hv
  · rename_i hm
    obtain ⟨e, he, rfl⟩ := List.mem_map.mp hv
    exact mem_versions hkey (h key _ hm) he
  · cases hv
  · cases hv

/-- **A cache that grows sees nothing new, or fewer files are left.** -/
theorem Sub.fewer (h : c.Sub c') (keys : List CacheKey) :
    (c'.versions keys = c.versions keys ∧ c'.unseen keys = c.unseen keys) ∨
      c'.unseen keys < c.unseen keys := by
  induction keys with
  | nil => exact .inl ⟨rfl, rfl⟩
  | cons key keys ih =>
    unfold Cache.versions unseen at ih ⊢
    rw [List.flatMap_cons, List.flatMap_cons, List.countP_cons, List.countP_cons]
    by_cases hkept : c'.get? key = c.get? key
    · have hversions : c'.versionsAt key = c.versionsAt key := by rw [versionsAt, hkept, versionsAt]
      have hcontains : c'.contains key = c.contains key := by rw [contains, hkept, contains]
      rw [hversions, hcontains]
      refine ih.imp (fun ⟨hv, hc⟩ => ?_) fun hless => Nat.add_lt_add_right hless _
      rw [hv, hc]
      exact ⟨rfl, rfl⟩
    · -- the file has got an entry
      right
      have hold : c.get? key = none := by
        cases hold : c.get? key with
        | none => rfl
        | some m => exact absurd ((h key m hold).trans hold.symm) hkept
      obtain ⟨m, hnew⟩ := Option.ne_none_iff_exists'.mp (hold ▸ hkept)
      have hcontained : c.contains key = false := by rw [contains, hold]; rfl
      have hcontains : c'.contains key = true := by rw [contains, hnew]; rfl
      simp only [hcontained, hcontains]
      rcases ih with ⟨-, hc⟩ | hless
      · simp [hc]
      · simp; omega

end Cache

/-! ### Sights -/

namespace SessionM
variable {r : Repository σ} {build : ModelBuilder} {id path : String}

theorem stopOf_ne (refusal : Refusal) : stopOf refusal ≠ .unfinished := by
  cases refusal <;> exact nofun

theorem buildModel_stops_ne {s : Session σ} {stop : Stop}
    (h : (buildModel r build id path s).1 = .error stop) : stop ≠ .unfinished := by
  rcases buildModel_error h with ⟨refusal, -, rfl⟩ | ⟨-, -, -, rfl, -⟩
  · exact stopOf_ne refusal
  · exact nofun

end SessionM

namespace Walker
open Walk
variable {ids paths : List String}

/-- Models are those in the cache, and all nodes but the one with the first key are versions that
the cache shows.  No walk stops for want of steps. -/
def sightAccount (ids paths : List String) (start : VersionKey) : Account σ α where
  state s := ∀ n ∈ s.run.nodes, n.key ∈ start :: s.session.cache.versions (ids ×ˢ paths)
  model c key m := c.get? key = some m
  version c key := key ∈ c.versions (ids ×ˢ paths)
  commit := (· ∈ ids)
  path := (· ∈ paths)
  halts stop := stop ≠ .unfinished

/-- **A walk has seen what it records.** -/
theorem sightAccount_holds {w : Walker σ α} (hw : w.repository.NamesOnly ids paths)
    (start : VersionKey) : (sightAccount ids paths start : Account σ α).Holds w where
  keeps hs hcache hnodes := by
    intro n hn
    rw [hcache]
    exact (hnodes n hn).elim (hs n) (List.mem_cons_of_mem _)
  later hc hkey := hc.versions hkey
  elements hid hpath hm he := Cache.mem_versions (List.pair_mem_product.mpr ⟨hid, hpath⟩) hm he
  looks c id path := by
    have hsession := w.modelOf_session id path
    constructor
    · intro s hs _
      obtain ⟨hgrown, hnodes⟩ := w.modelOf_still id path s
      exact ⟨fun n hn => List.cons_subset_cons _ hgrown.versions (hs n (hnodes ▸ hn)), hgrown⟩
    · intro s m _ _ hm
      rw [(hsession s).1] at hm
      rw [(hsession s).2]
      exact (w.modelOf_enters id path s.session).2.1 m hm
    · intro s stop _ _ hstop
      rw [(hsession s).1] at hstop
      rcases (w.modelOf_enters id path s.session).2.2 stop hstop with rfl | ⟨s', hs'⟩
      · exact .inr nofun
      · exact .inr (SessionM.buildModel_stops_ne hs')
  resolves h := hw.resolve _ _ h
  touches h := hw.touching _ _ _ h
  changes h p hp := hw.changed _ _ _ _ h hp
  declines _ := nofun

end Walker
end Lineage
