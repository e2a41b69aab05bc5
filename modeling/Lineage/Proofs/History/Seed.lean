import Lineage.Proofs.Element.Located
import Lineage.Proofs.History.Successors
import Lineage.Proofs.Repository.Fixed

/-! # Where a walk starts

A tracker resolves its start commit, takes the model of its file there, and looks up the
element that its locator means.  So a walk starts at an element of the model of the file,
of the kind that the locator names (`Tracker.start_spec`), and with a cache that remembers
what building gives.

For a stored graph it can be computed whether versions are told apart: identifiers are
named once, and in no file two elements of the kind share lines (`tellsApart_fixed`).
-/
namespace Lineage

/-! ### Trackers -/

namespace Tracker
open Walk Walker
variable {σ α : Type} {t : Tracker σ α} {s x : Session σ} {a : Active}

/-- **A walk starts at what the locator means**: an element of the file at the start commit, of the
kind that is tracked. -/
theorem start_spec (hr : t.walker.repository.Steady) (hs : t.walker.Remembers s.cache)
    (h : t.start? s = some (a, x)) :
    t.walker.repository.Resolves t.config.startCommit a.commit ∧
    t.walker.Proper a.version a.version ∧ a.element.kind = t.kind ∧ t.walker.Remembers x.cache := by
  unfold start? at h
  split at h
  swap
  · cases h
  rename_i commit m e s₁ hseed
  obtain ⟨rfl, rfl⟩ := Prod.mk.inj (Option.some.inj h)
  -- the commit is resolved, its file modelled and the element looked up; the walk needs all three
  rw [seed?] at hseed
  rcases hcommit : (SessionM.ask (t.walker.repository.resolve t.config.startCommit) s).1
    with stop | commit'
  · rw [bind_of_error hcommit] at hseed
    cases hseed
  rw [bind_of_ok hcommit] at hseed
  let s₀ := (SessionM.ask (t.walker.repository.resolve t.config.startCommit) s).2
  have hmodel : _ ∧ t.walker.Remembers (SessionM.modelOf t.walker.repository t.walker.build
      commit'.id t.config.path s₀).2.cache := modelOf_remembers hr hs
  rcases hcached : (SessionM.modelOf t.walker.repository t.walker.build commit'.id t.config.path
    s₀).1 with stop | m' | _
  · rw [bind_of_error hcached] at hseed
    cases hseed
  · rw [bind_of_ok hcached] at hseed
    obtain ⟨houtcome, rfl⟩ := Prod.mk.inj hseed
    obtain ⟨rfl, helement⟩ := Prod.mk.inj (Except.ok.inj houtcome)
    obtain ⟨e', hfound, heq⟩ := Option.map_eq_some_iff.mp helement
    obtain ⟨rfl, rfl⟩ := Prod.mk.inj heq
    have hbuilt : t.walker.Builds commit'.id t.config.path (.model m') := ⟨s₀, hmodel.1 ▸ hcached⟩
    obtain ⟨hmem, hkind⟩ := Locator.find?_mem hfound
    exact ⟨⟨s.world, ask_ok hcommit⟩, ⟨.inl rfl, hbuilt, hmem, rfl⟩, hkind, hmodel.2⟩
  · rw [bind_of_ok hcached] at hseed
    cases hseed

end Tracker

/-! ### Stored graphs -/

namespace Archive
variable {α : Type} {a : Archive}

theorem steady_fixed : a.fixed.Steady :=
  ⟨fun _ _ _ => rfl, fun _ _ _ _ => rfl, fun _ _ _ _ => rfl, fun _ _ _ _ => rfl⟩

/-- A file of a stored graph is built from the bytes that its commit stores. -/
theorem stored_of_builds {w : Walker Unit α} (hw : w.repository = a.fixed) {id path : String}
    {m : Model} (h : w.Builds id path (.model m)) :
    ∃ record ∈ a.commits, record.id = id ∧ ∃ bytes, (path, bytes) ∈ record.files ∧
      w.build bytes path = .ok m := by
  obtain ⟨s, hs⟩ := h
  rw [hw] at hs
  obtain ⟨bytes, hbytes, hmodel⟩ := SessionM.buildModel_ok hs
  have hblob : a.blob id path = .ok bytes := still_ok hbytes
  unfold blob at hblob
  split at hblob
  · cases hblob
  · split at hblob
    · rename_i bytes' hfile
      cases hblob
      obtain ⟨record, hrecord, hlookup⟩ := Option.bind_eq_some_iff.mp hfile
      obtain ⟨before, after, hfiles, -⟩ := List.lookup_eq_some_iff.mp hlookup
      refine ⟨record, List.mem_of_find?_eq_some hrecord, eq_of_beq (List.find?_some hrecord :),
        bytes, ?_, hmodel⟩
      rw [hfiles]
      exact List.mem_append_right _ List.mem_cons_self
    · cases hblob

/-- In no file of a stored graph two elements of a kind share a range of lines. -/
def distinctRanges (a : Archive) (kind : ElementKind) : Bool :=
  a.commits.all fun c => c.files.all fun f =>
    match Model.ofBytes (fun _ => none) f.2 f.1 with
    | .ok m => decide ((m.ofKind kind).map (·.lines)).Nodup
    | .error _ => true

/-- The commits that a stored graph hands out are those that it stores. -/
theorem handsOut_fixed {c : Commit} (h : a.fixed.HandsOut c) :
    ∃ record ∈ a.commits, c = plainCommit record := by
  rcases h with ⟨id, hid⟩ | ⟨id, path, v, hv, rfl⟩
  · obtain ⟨record, hrecord, -, heq⟩ := resolves_fixed hid
    exact ⟨record, hrecord, heq⟩
  · obtain ⟨-, -, -, -, hcommit, -⟩ := touches_fixed hv
    obtain ⟨record, hrecord, -, heq⟩ := resolve_ok hcommit
    exact ⟨record, hrecord, heq⟩

/-- A stored graph tells versions apart if its identifiers do and the lines of elements do. -/
theorem tellsApart_fixed {path : String} {locator : Locator} {seed : Version}
    (hids : (a.commits.map (·.id)).Nodup) (hseed : a.fixed.HandsOut seed.commit)
    (hranges : a.distinctRanges seed.element.kind = true) :
    (a.fixedTracker path locator).walker.TellsApart seed := by
  have hstored : ∀ c, c = seed.commit ∨ a.fixed.HandsOut c →
      ∃ record ∈ a.commits, c = plainCommit record := by
    rintro c (rfl | hc)
    · exact handsOut_fixed hseed
    · exact handsOut_fixed hc
  constructor
  · intro c c' hc hc' hid
    obtain ⟨record, hrecord, rfl⟩ := hstored c hc
    obtain ⟨record', hrecord', rfl⟩ := hstored c' hc'
    rw [List.inj_on_of_nodup_map hids hrecord hrecord' hid]
  · intro id path m hbuilt e he e' he' hkind hkind' hlines
    obtain ⟨record, hrecord, -, bytes, hfile, hmodel⟩ := stored_of_builds rfl hbuilt
    replace hmodel : Model.ofBytes (fun _ => none) bytes path = .ok m := hmodel
    have hfiles := List.all_eq_true.mp hranges record hrecord
    have hnodup := List.all_eq_true.mp hfiles (path, bytes) hfile
    dsimp only at hnodup
    rw [hmodel] at hnodup
    have hof : ∀ {e : Element}, e ∈ m.elements.toList → e.kind = seed.element.kind →
        e ∈ m.ofKind seed.element.kind := fun he hkind =>
      List.mem_filter.mpr ⟨he, beq_iff_eq.mpr hkind⟩
    exact List.inj_on_of_nodup_map (of_decide_eq_true hnodup) (hof he hkind) (hof he' hkind') hlines

end Archive
end Lineage
