import Lineage.Proofs.History.Replay

/-! # A stored graph that does not change

A stored commit graph is a repository also in a world that has no state (`Archive.fixed`);
its answers are those of the stored graph.  What it names as earlier than a commit are
the commits that the graph stores as parents (`touches_fixed`, `resolves_fixed`), and files
that they have (`changes_fixed`).
-/
namespace Lineage.Archive

/-- The stored graph as a repository whose world has no state. -/
def fixed (a : Archive) : Repository Unit := (memory false).within (fun _ => a) fun _ u => u

/-- A tracker like `Archive.tracker` for a stored graph that does not change. -/
def fixedTracker (a : Archive) (path : String) (locator : Locator) : Tracker Unit Float where
  config := ⟨"HEAD", path, locator⟩
  walker :=
    { repository := a.fixed
      build := Model.ofBytes fun _ => none
      matching := { MatchingConfig.standard with minAnchorHeight := 100 }
      config := {}
      shown := fun _ => .null
      cancelled := fun _ => false
      elapsed := fun _ => 0 }
  steps := a.stepBound 0

variable {a : Archive}

theorem still_ok {σ α : Type} {answer : Except RepositoryFault α} {events : List Event} {s : σ}
    {x : α} (h : (Asked.still answer events s).1 = .ok x) : answer = .ok x := by
  cases answer with
  | error f => cases h
  | ok y => exact congrArg Except.ok (Except.ok.inj h)

/-- A revision is resolved to the stored commit of its identifier. -/
theorem resolve_ok {revision : String} {c : Commit} (h : a.resolve revision = .ok c) :
    ∃ record ∈ a.commits, record.id = a.idOf revision ∧ c = plainCommit record := by
  unfold resolve readable? record? at h
  dsimp only at h
  split at h
  · rename_i record hrecord
    cases h
    split at hrecord
    · cases hrecord
    · exact ⟨record, List.mem_of_find?_eq_some hrecord,
        eq_of_beq (List.find?_some hrecord :), rfl⟩
  · cases h

theorem resolves_fixed {id : String} {c : Commit} (h : a.fixed.Resolves id c) :
    ∃ record ∈ a.commits, record.id = a.idOf id ∧ c = plainCommit record := by
  obtain ⟨s, hs⟩ := h
  exact resolve_ok (still_ok hs)

/-- What has an outcome in all places has one in each. -/
theorem mem_of_mapM_ok {ε β γ : Type} {f : β → Except ε γ} {xs : List β} {ys : List γ}
    (h : xs.mapM f = .ok ys) {y : γ} (hy : y ∈ ys) : ∃ x ∈ xs, f x = .ok y := by
  induction xs generalizing ys with
  | nil =>
    cases h
    cases hy
  | cons x xs ih =>
    rw [List.mapM_cons] at h
    rcases hx : f x with e | z
    · rw [hx] at h
      cases h
    rcases hxs : xs.mapM f with e | zs
    · rw [hx, hxs] at h
      cases h
    · rw [hx, hxs] at h
      cases h
      rcases List.mem_cons.mp hy with rfl | hy
      · exact ⟨x, List.mem_cons_self, hx⟩
      · obtain ⟨x', hx', hf⟩ := ih hxs hy
        exact ⟨x', List.mem_cons_of_mem _ hx', hf⟩

/-- A commit has a file only at a path that it stores. -/
theorem mem_of_file? {record : CommitRecord} {path : String} {bytes : List UInt8}
    (h : record.file? path = some bytes) : path ∈ record.files.map Prod.fst := by
  obtain ⟨before, after, hfiles, -⟩ := List.lookup_eq_some_iff.mp h
  rw [hfiles]
  exact List.mem_map_of_mem (List.mem_append_right before List.mem_cons_self)

/-- The previous versions of a file are at parents of the stored commit, which have the file. -/
theorem touches_fixed {id path : String} {v : ParentVersion} (h : a.fixed.Touches id path v) :
    ∃ record ∈ a.commits, record.id = id ∧ v.viaParent ∈ record.parents ∧
      a.resolve v.viaParent = .ok v.commit ∧
      ∃ source ∈ a.commits, v.path ∈ source.files.map Prod.fst := by
  obtain ⟨s, vs, hvs, hv⟩ := h
  have hvs : a.parentVersions id path = .ok vs := still_ok hvs
  unfold parentVersions at hvs
  split at hvs
  · cases hvs
  · split at hvs
    · cases hvs
      cases hv
    · rename_i record hrecord
      rcases hall : record.parents.mapM (a.parentVersion? (record.oldPath path)) with e | us
      · rw [hall] at hvs
        cases hvs
      · rw [hall] at hvs
        cases hvs
        obtain ⟨u, hu, rfl⟩ := List.mem_filterMap.mp hv
        obtain ⟨parent, hparent, hversion⟩ := mem_of_mapM_ok hall hu
        unfold parentVersion? at hversion
        split at hversion
        · cases hversion
        · rename_i bytes hfile
          obtain ⟨source, hsource, hfile⟩ := Option.bind_eq_some_iff.mp hfile
          rcases hresolve : a.resolve parent with e | c
          · rw [hresolve] at hversion
            cases hversion
          · rw [hresolve] at hversion
            cases hversion
            exact ⟨record, List.mem_of_find?_eq_some hrecord,
              eq_of_beq (List.find?_some hrecord :), hparent, hresolve, source,
              List.mem_of_find?_eq_some hsource, mem_of_file? hfile⟩

/-- The files that a commit has changed are files of the other commit. -/
theorem changes_fixed {id parent : String} {s : Unit} {ps : List String}
    (h : (a.fixed.changedPaths id parent s).1 = .ok ps) {p : String} (hp : p ∈ ps) :
    ∃ source ∈ a.commits, p ∈ source.files.map Prod.fst := by
  have hps : a.changes id parent = .ok ps := still_ok h
  unfold changes at hps
  split at hps
  · cases hps
  · split at hps
    · rename_i old new hold hnew
      cases hps
      obtain ⟨f, hf, rfl⟩ := List.mem_map.mp (List.mem_mergeSort.mp hp)
      exact ⟨old, List.mem_of_find?_eq_some hold, List.mem_map_of_mem (List.mem_filter.mp hf).1⟩
    · cases hps
      cases hp

end Lineage.Archive
