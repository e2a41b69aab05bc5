import Lineage.Proofs.History.Endings
import Lineage.Proofs.History.Finite

/-! # Faults and where they stay

A walker meets faults only if its repository takes all questions, so that it can refuse an
answer because of a fault alone, and its builder refuses files that cannot be parsed and
nothing else (`Walker.FaultsOnly`).  The faults may come at any time.

Looking up a model can then stop for a fault of the repository, and whatever asks the
repository is tried where it is used.  So the account holds that no step stops, and that each
version that a walk records is one of a file that the repository has (`FaultsOnly.holds`).  A walk
is told, or it was given too few steps; and with finitely many versions to record it is told
(`told_of_finite`).
-/
namespace Lineage
variable {σ α : Type}

/-- All that can go wrong is a fault of the repository or a file that cannot be parsed. -/
structure Walker.FaultsOnly (w : Walker σ α) : Prop where
  resolve : ∀ id s, (w.repository.resolve id s).1 ≠ .error .unsupported
  parentsTouching : ∀ id path s, (w.repository.parentsTouching id path s).1 ≠ .error .unsupported
  readBlob : ∀ id path s, (w.repository.readBlob id path s).1 ≠ .error .unsupported
  changedPaths : ∀ id parent s, (w.repository.changedPaths id parent s).1 ≠ .error .unsupported
  build : ∀ bytes path fault, w.build bytes path = .error fault → ∃ f, fault = .parse f

/-- All elements of files that can be read and parsed, at whatever time, have keys with a
property. -/
def Walker.AllVersions (w : Walker σ α) (K : VersionKey → Prop) : Prop :=
  ∀ id path m, w.Builds id path (.model m) → ∀ e ∈ m.elements.toList, K ⟨id, path, e.lines⟩

/-- The cache is right, and the recorded versions have a property. -/
structure Walker.Within (w : Walker σ α) (K : VersionKey → Prop) (s : WalkState σ α) : Prop where
  cache : w.Remembers s.session.cache
  nodes : ∀ n ∈ s.run.nodes, K n.key

/-- The cache is right, models are those that can be built, versions have a property, and nothing
makes a walk stop. -/
def Walker.faultAccount (w : Walker σ α) (K : VersionKey → Prop) : Account σ α where
  state := w.Within K
  model _ key m := w.Builds key.1 key.2 m
  version _ := K
  commit _ := True
  path _ := True
  halts _ := False

namespace Walker
open Walk
variable {w : Walker σ α} {K : VersionKey → Prop} (hw : w.FaultsOnly)
include hw

theorem FaultsOnly.not_declines : ¬ w.repository.Declines := by
  rintro (⟨id, s, h⟩ | ⟨id, path, s, h⟩ | ⟨id, parent, s, h⟩)
  · exact hw.resolve id s h
  · exact hw.parentsTouching id path s h
  · exact hw.changedPaths id parent s h

/-- A file is not read because of a fault. -/
theorem buildModel_stops {id path : String} {s : Session σ} {stop : Stop}
    (h : (SessionM.buildModel w.repository w.build id path s).1 = .error stop) : stop.IsFault := by
  rcases SessionM.buildModel_error h with
    ⟨refusal, hanswer, rfl⟩ | ⟨bytes, fault, hbuild, -, hparse⟩
  · cases refusal with
    | fault f => exact ⟨f, rfl⟩
    | unsupported => exact absurd hanswer (hw.readBlob id path s.world)
  · obtain ⟨f, hf⟩ := hw.build bytes path fault hbuild
    exact absurd hf (hparse f)

/-- **No walk stops**, and what it records are versions of files that the repository has. -/
theorem FaultsOnly.holds (hK : w.AllVersions K) : (w.faultAccount K).Holds w where
  keeps hs hcache hnodes :=
    ⟨hcache ▸ hs.cache, fun n hn => (hnodes n hn).elim (hs.nodes n) id⟩
  later _ := id
  elements _ _ hbuilds he := hK _ _ _ hbuilds _ he
  looks c id path := by
    constructor
    · intro s hs _
      obtain ⟨hgrown, hnodes⟩ := w.modelOf_still id path s
      refine ⟨⟨?_, hnodes ▸ hs.nodes⟩, hgrown⟩
      rw [(w.modelOf_session id path s).2]
      exact remembers_modelOf hs.cache
    · intro s m hs _ hm
      rw [(w.modelOf_session id path s).1] at hm
      obtain ⟨s', hs'⟩ := modelOf_outcome hs.cache
      exact ⟨s', hs'.symm.trans hm⟩
    · intro s stop hs _ hstop
      rw [(w.modelOf_session id path s).1] at hstop
      obtain ⟨s', hs'⟩ := modelOf_outcome hs.cache
      exact .inl (buildModel_stops hw (hs'.symm.trans hstop))
  resolves _ := trivial
  touches _ := ⟨trivial, trivial⟩
  changes _ _ _ := trivial
  declines h := hw.not_declines h

variable [Score α] {x : Session σ}

/-- Where only faults can go wrong, earlier versions are examined one after the other. -/
theorem FaultsOnly.mapM_ok (origin : Active) (vs : List ParentVersion) {s : WalkState σ α}
    (hs : w.Remembers s.session.cache) :
    ∃ rs, vs.mapM (w.resolveVersion origin) s
        = (.ok rs, (vs.mapM (w.resolveVersion origin) s).2) ∧
      w.Remembers (vs.mapM (w.resolveVersion origin) s).2.session.cache := by
  have hholds := FaultsOnly.holds (K := fun _ => True) hw fun _ _ _ _ _ _ => trivial
  have hwithin : w.Within (fun _ => True) s := ⟨hs, fun _ _ => trivial⟩
  have hupholds : Upholds (w.Within fun _ => True) s.session.cache
      (vs.mapM (w.resolveVersion origin)) (fun _ _ => True) fun _ => False :=
    upholds_mapM fun v _ => hholds.resolveVersion origin ⟨trivial, trivial⟩
  obtain ⟨rs, hrs, -⟩ := hupholds.exists_ok hwithin (Cache.sub_refl _)
  exact ⟨rs, hrs, (hupholds.keeps s hwithin (Cache.sub_refl _)).1.cache⟩

/-- Where only faults can go wrong, a history is told, or the walk was given too few steps. -/
theorem told_or_unfinished (fuel : Nat) (commit : Commit) (path : String)
    (m : Model) (e : Element) (hx : w.Remembers x.cache) :
    (∃ h, (w.history fuel commit path m e x).1 = .ok h) ∨
      (w.history fuel commit path m e x).1 = .error .unfinished := by
  let seed : Active := ⟨0, commit, path, m, e⟩
  have hholds := FaultsOnly.holds (K := fun _ => True) hw fun _ _ _ _ _ _ => trivial
  rw [(w.history_told fuel seed rfl x).1]
  rcases hsteps : w.steps fuel [.active seed] (opening seed x) with ⟨stop | left, s⟩
  · exact (hholds.steps_stop .start ⟨hx, fun _ _ => trivial⟩ (congrArg Prod.fst hsteps)).elim
  · cases left with
    | nil => exact .inl ⟨_, rfl⟩
    | cons b bs => exact .inr rfl

/-- With finitely many versions a history is told, and from some number of steps on it does not
depend on that number. -/
theorem told_of_finite {keys : List VersionKey} (hkeys : w.AllVersions (· ∈ keys))
    (commit : Commit) (path : String) (m : Model) (e : Element) (hx : w.Remembers x.cache) :
    ∃ n h, ∀ fuel, n ≤ fuel → (w.history fuel commit path m e x).1 = .ok h := by
  let seed : Active := ⟨0, commit, path, m, e⟩
  have hstart : w.Within (· ∈ seed.key :: keys) (opening seed x) := by
    refine ⟨hx, fun node hnode => ?_⟩
    obtain rfl := List.mem_singleton.mp hnode
    exact List.mem_cons_self
  have hholds := hw.holds (K := (· ∈ seed.key :: keys)) fun id path m hm e he =>
    List.mem_cons_of_mem _ (hkeys id path m hm e he)
  obtain ⟨n, hended, hn⟩ := hholds.comes_to_end not_false (fun _ => seed.key :: keys) (fun _ => 0)
    (fun s hs => hs.nodes) (fun _ _ _ => .inl ⟨rfl, rfl⟩) rfl .start hstart
  have htold : ∀ fuel, (w.history fuel commit path m e x).1
      = told (w.steps fuel [.active seed] (opening seed x)) := fun fuel =>
    (w.history_told fuel seed rfl x).1
  rw [← htold] at hended
  obtain ⟨h, hh⟩ := (told_or_unfinished hw n commit path m e hx).resolve_right hended
  refine ⟨n, h, fun fuel hfuel => ?_⟩
  rw [htold, hn fuel hfuel, ← htold, hh]

end Walker
end Lineage
