import Lineage.Repository.Git
import Mathlib.Data.List.Nodup

/-!
# A linear history of a file

In a line of commits each one has the next as its only parent, and the last has none. The store is
asked where a file was last touched, and answers with the nearest commit of the line that added or
changed it (`ObjectStore.TellsNearest`); between two such commits there may be any number of others.

## Main statements

- `ObjectStore.Line.nodup`: no commit stands twice in a line.
- `ObjectStore.Line.parentVersions_step`: **the version before a commit is the one that the commits
  behind it touched last**, whether the commit itself touched the file or not.
-/

namespace Lineage.ObjectStore

variable (g : ObjectStore) (path : String)

/-- The store has a commit under its identifier, and the file in it. -/
structure Stores (c : CommitObject) : Prop where
  revision : g.revision? c.id = some c
  object : g.object? c.id = some c
  file : (g.blob? c.id path).isSome

/-- Commits, the latest first, each with the next as its only parent, which all have a file. -/
inductive Line : List CommitObject → Prop
  | root {c : CommitObject} (stored : g.Stores path c) (parents : c.parents = []) : Line [c]
  | step {c p : CommitObject} {rest : List CommitObject} (stored : g.Stores path c)
      (parents : c.parents = [p.id]) (before : Line (p :: rest)) : Line (c :: p :: rest)

/-- The commits of a line that added the file or changed it. -/
def touching : List CommitObject → List CommitObject
  | [] => []
  | [c] => [c]
  | c :: p :: rest =>
    if g.blob? c.id path = g.blob? p.id path then touching (p :: rest) else c :: touching (p :: rest)

/-- From each commit of a line the store finds the nearest one that added the file or changed it. -/
def TellsNearest (cs : List CommitObject) : Prop :=
  ∀ c rest, c :: rest <:+ cs → g.lastTouching c.id path = .ok (g.touching path (c :: rest)).head?

variable {g path} {c p : CommitObject} {cs rest : List CommitObject}

theorem Stores.commit (h : g.Stores path c) : g.commit c.id = .ok c := by
  rw [ObjectStore.commit, h.revision]

theorem touching_sublist (cs : List CommitObject) : (g.touching path cs).Sublist cs := by
  fun_induction g.touching path cs with
  | case1 => exact .slnil
  | case2 c => exact .refl _
  | case3 c p rest _ ih => exact ih.cons c
  | case4 c p rest _ ih => exact ih.cons_cons c

variable (g path) in
/-- The nearest commit that touched the file, and behind it those that touched it before. -/
theorem exists_nearest (hcs : cs ≠ []) :
    ∃ d rest, d :: rest <:+ cs ∧ g.touching path cs = d :: g.touching path rest := by
  fun_induction g.touching path cs with
  | case1 => exact absurd rfl hcs
  | case2 c => exact ⟨c, [], List.suffix_rfl, rfl⟩
  | case3 c p rest _ ih =>
    obtain ⟨d, rest', hsuffix, htouching⟩ := ih (List.cons_ne_nil _ _)
    exact ⟨d, rest', hsuffix.trans (List.suffix_cons c _), htouching⟩
  | case4 c p rest _ ih => exact ⟨c, p :: rest, List.suffix_rfl, rfl⟩

theorem tellsNearest_nil : g.TellsNearest path [] := fun c rest hsuffix => by
  cases List.suffix_nil.mp hsuffix

theorem TellsNearest.cons
    (hlast : g.lastTouching c.id path = .ok (g.touching path (c :: rest)).head?)
    (h : g.TellsNearest path rest) : g.TellsNearest path (c :: rest) := by
  intro c' rest' hsuffix
  rcases List.suffix_cons_iff.mp hsuffix with heq | hsuffix
  · obtain ⟨rfl, rfl⟩ := List.cons.inj heq
    exact hlast
  · exact h c' rest' hsuffix

theorem TellsNearest.suffix {cs' : List CommitObject} (h : g.TellsNearest path cs)
    (hsuffix : cs' <:+ cs) : g.TellsNearest path cs' :=
  fun c rest hc => h c rest (hc.trans hsuffix)

namespace Line

theorem stored (h : g.Line path (c :: rest)) : g.Stores path c := by
  cases h <;> assumption

theorem suffix (h : g.Line path cs) (hsuffix : c :: rest <:+ cs) : g.Line path (c :: rest) := by
  induction h with
  | root hstored hparents =>
    rcases List.suffix_cons_iff.mp hsuffix with heq | hsuffix
    · exact heq ▸ .root hstored hparents
    · cases List.suffix_nil.mp hsuffix
  | step hstored hparents before ih =>
    rcases List.suffix_cons_iff.mp hsuffix with heq | hsuffix
    · exact heq ▸ .step hstored hparents before
    · exact ih hsuffix

/-- What stands behind a commit is determined by its parents. -/
theorem unique {rest' : List CommitObject} (h : g.Line path (c :: rest))
    (h' : g.Line path (c :: rest')) : rest = rest' := by
  generalize hcs : c :: rest = cs at h
  induction h generalizing c rest rest' with
  | root _ hparents =>
    obtain ⟨rfl, rfl⟩ := List.cons.inj hcs
    cases h' with
    | root => rfl
    | step _ hparents' => cases hparents.symm.trans hparents'
  | step _ hparents before ih =>
    obtain ⟨rfl, rfl⟩ := List.cons.inj hcs
    cases h' with
    | root _ hparents' => cases hparents.symm.trans hparents'
    | step _ hparents' before' =>
      have hid := (List.cons.inj (hparents.symm.trans hparents')).1
      obtain rfl := Option.some.inj
        (before.stored.object.symm.trans (hid ▸ before'.stored.object))
      rw [ih before' rfl]

/-- No commit stands twice in a line. -/
theorem nodup (h : g.Line path cs) : (cs.map CommitObject.id).Nodup := by
  induction h with
  | root => exact List.nodup_singleton _
  | @step c p rest hstored hparents before ih =>
    refine List.nodup_cons.mpr ⟨fun hmem => ?_, ih⟩
    obtain ⟨c', hc', hid⟩ := List.mem_map.mp hmem
    obtain ⟨newer, older, hsplit⟩ := List.append_of_mem hc'
    -- the commit would stand further back with all that is behind it here
    have hsuffix : c' :: older <:+ p :: rest := hsplit ▸ List.suffix_append newer _
    have hagain := before.suffix hsuffix
    obtain rfl := Option.some.inj
      (hagain.stored.object.symm.trans (hid ▸ hstored.object))
    have hsame := hagain.unique (.step hstored hparents before)
    have hlength := hsuffix.length_le
    rw [hsame, List.length_cons] at hlength
    omega

/-- The first commit of a line has no version of the file before it. -/
theorem parentVersions_root (h : g.Line path [c]) : g.parentVersions c.id path = (.ok [], []) := by
  cases h with
  | root hstored hparents =>
    rw [parentVersions, hstored.commit]
    dsimp only
    rw [hparents]
    rfl

/-- The version of the file before a commit of a line is the one that the commits behind it touched
last. -/
theorem parentVersions_step (h : g.Line path (c :: p :: rest))
    (htell : g.TellsNearest path (c :: p :: rest)) :
    ∃ d older, d :: older <:+ p :: rest ∧
      g.touching path (p :: rest) = d :: g.touching path older ∧
      g.parentVersions c.id path = (.ok [⟨commitOf d, path, p.id⟩], []) := by
  obtain ⟨d, older, hsuffix, htouching⟩ := exists_nearest g path (List.cons_ne_nil p rest)
  refine ⟨d, older, hsuffix, htouching, ?_⟩
  cases h with
  | step hstored hparents before =>
    have hlast := htell p rest (List.suffix_cons c _)
    rw [htouching, List.head?_cons] at hlast
    have hversion : g.versionIn p path = .ok ⟨commitOf d, path, p.id⟩ := by
      rw [versionIn, hlast]
      rfl
    -- it does not matter whether the commit has the content of its parent
    have hcontributors : g.contributors c path [p] [] [] = (.ok [(p, path)], []) := by
      obtain ⟨content, hcontent⟩ := Option.isSome_iff_exists.mp before.stored.file
      rw [contributors, pathInParent, hcontent]
      dsimp only
      split <;> rfl
    rw [parentVersions, hstored.commit]
    dsimp only
    rw [hparents, List.filterMap_cons_some before.stored.object, List.filterMap_nil, hcontributors]
    dsimp only
    rw [List.mapM_cons, List.mapM_nil, hversion]
    rfl

end Line

end Lineage.ObjectStore
