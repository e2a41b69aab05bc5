import Lineage.Proofs.History.Accounts
import Lineage.Proofs.History.Seed
import Lineage.Proofs.Matching.Elsewhere
import Lineage.Proofs.Repository.Fixed
import Lineage.Proofs.Source.Standing

/-! # Followed moves

An element that is in no earlier version of its own file is looked for in the other files that its
commit changed, as they are at the parent.  What is found there was listed as changed, was built
from what the file holds at the parent, and is called like the element (`Match.MovedFrom`,
`Walker.movedFrom_of_findMoved`).

So the match comes from a file that is gone or different at the commit of the element, as far as the
repository lists no other files.  What is left of the file there is never looked at: following a
move does not read any file at that commit (`Walker.findMoved_reading`).

The label of the match depends on declarations of the same names (`Lookup.Mistaken`).  Unless a
move is mistaken its label is a change of container, and the walk goes on from the match.
-/
namespace Lineage
variable {σ α : Type} [Score α] {w : Walker σ α} {origin : Active} {parentId : String} {m : Match α}

/-! ### Where a match comes from -/

/-- The lookup of which a match is the outcome. -/
def Match.lookup {α : Type} (m : Match α) (origin : Active) : Lookup :=
  ⟨origin.element, origin.model, m.model⟩

/-- A match that following a move gives: its commit is the parent, its file was listed as changed
and is built from what the parent holds, and its element was accepted there. -/
structure Match.MovedFrom (w : Walker σ α) (origin : Active) (parentId : String) (m : Match α) :
    Prop where
  parent : w.repository.Resolves parentId m.commit
  listed : ∃ s paths, (w.repository.changedPaths origin.commit.id parentId s).1 = .ok paths ∧
    m.path ∈ w.moveSources origin paths
  built : m.Built w
  accepted : ∃ s, (m.lookup origin).elsewhere? w.matching = some (s, m.kind) ∧
    s.element = m.element

namespace Walker
open Walk

/-- Following a move gives a match of a changed file at the parent. -/
theorem movedFrom_of_findMoved {s : WalkState σ α} (hs : w.Remembers s.session.cache)
    (h : (w.findMoved origin parentId s).1 = .ok (some m)) : m.MovedFrom w origin parentId := by
  have hmoved : Upholds (fun s : WalkState σ α => w.Remembers s.session.cache) {}
      (w.findMoved origin parentId) (fun _ r => ∀ m, r = some m → m.MovedFrom w origin parentId)
      fun _ => True := by
    refine upholds_findMoved (P := fun _ m => m.MovedFrom w origin parentId)
      (fun _ _ hs hcache _ => hcache ▸ hs) (fun _ _ _ _ hm => hm) (fun _ => trivial) ?_
    intro s' paths parent hpaths hresolved p hp c
    have hlook := w.upholds_modelOf c parent.id p
    refine ⟨hlook.keeps, fun s m hs hc hm earlier chosen kind hmodel hfound => ?_,
      fun _ _ _ _ _ => .inr trivial⟩
    subst hmodel
    exact ⟨hresolved, ⟨s', paths, hpaths, hp⟩, hlook.yields s _ hs hc hm, ⟨chosen, hfound, rfl⟩⟩
  exact hmoved.yields s _ hs (fun _ _ hm => nomatch hm) h m rfl

end Walker

namespace Match.MovedFrom
variable (h : m.MovedFrom w origin parentId)
include h

theorem path_ne : m.path ≠ origin.path := by
  obtain ⟨_, _, -, hmem⟩ := h.listed
  exact bne_iff_ne.mp (Bool.and_eq_true_iff.mp (List.mem_filter.mp hmem).2).1

theorem hasSuffix : ∃ suffix ∈ w.config.sourceSuffixes, suffix.toList <:+ m.path.toList := by
  obtain ⟨_, _, -, hmem⟩ := h.listed
  obtain ⟨suffix, hsuffix, hends⟩ :=
    List.any_eq_true.mp (Bool.and_eq_true_iff.mp (List.mem_filter.mp hmem).2).2
  exact ⟨suffix, hsuffix, List.isSuffixOf_iff_suffix.mp hends⟩

theorem like : (m.lookup origin).Like m.element := by
  obtain ⟨s, hs, helement⟩ := h.accepted
  exact helement ▸ Lookup.like_of_elsewhere? hs

theorem mem_sameKind : m.element ∈ m.model.elements.toList ∧
    m.element.kind = origin.element.kind := by
  obtain ⟨s, hs, helement⟩ := h.accepted
  have hchosen := Lookup.chooses_of_elsewhere? hs
  exact helement ▸ ⟨hchosen.mem_elements, hchosen.kind_eq⟩

end Match.MovedFrom

/-! ### What is not looked at -/

/-- The walker in a repository whose files hold something else. -/
def Walker.reading (w : Walker σ α) (blob : String → String → Asked σ (List UInt8)) :
    Walker σ α :=
  { w with repository := { w.repository with readBlob := blob } }

namespace Walker
open Walk
variable {blob : String → String → Asked σ (List UInt8)}

omit [Score α] in
theorem modelOf_reading {id path : String} (h : blob id path = w.repository.readBlob id path) :
    (w.reading blob).modelOf id path = w.modelOf id path := by
  have hread : (w.reading blob).repository.readBlob id path = w.repository.readBlob id path := h
  unfold modelOf SessionM.modelOf SessionM.buildModel
  rw [hread]
  rfl

theorem searchFiles_reading {parent : Commit}
    (h : ∀ path, blob parent.id path = w.repository.readBlob parent.id path)
    (paths : List String) (best : Option (Match α)) :
    (w.reading blob).searchFiles origin parent paths best
      = w.searchFiles origin parent paths best := by
  induction paths generalizing best with
  | nil => rfl
  | cons path rest ih =>
    unfold searchFiles
    simp only [ih, modelOf_reading (h path)]
    rfl

/-- Following a move reads files at the parent only. -/
theorem findMoved_reading (h : ∀ parent, w.repository.Resolves parentId parent →
    ∀ path, blob parent.id path = w.repository.readBlob parent.id path) :
    (w.reading blob).findMoved origin parentId = w.findMoved origin parentId := by
  refine bind_congr fun answer => ?_
  cases answer with
  | error f => rfl
  | ok paths =>
    dsimp only
    by_cases hsources : (w.moveSources origin paths).isEmpty = true
    · rw [if_pos hsources]
      exact if_pos hsources
    · rw [if_neg hsources]
      refine (if_neg hsources).trans ?_
      -- the files are read at the commit to which the parent is resolved
      refine (yields_attempt (yields_ask _)).bind_congr fun answer hresolved => ?_
      cases answer with
      | error f => rfl
      | ok parent =>
        dsimp only
        rw [searchFiles_reading (h parent (hresolved parent rfl))]
        rfl

end Walker

/-! ### Files that a commit changed -/

namespace Repository

/-- A commit can be answered to hold some bytes at a path. -/
def Holds (r : Repository σ) (id path : String) (bytes : List UInt8) : Prop :=
  ∃ s, (r.readBlob id path s).1 = .ok bytes

/-- The files that are listed as changed by a commit are gone or different there: the commit does
not hold what the parent holds. -/
def TellsChanges (r : Repository σ) : Prop := ∀ id parent s paths,
  (r.changedPaths id parent s).1 = .ok paths → ∀ p ∈ paths, ∀ c, r.Resolves parent c →
  ∀ bytes, r.Holds c.id p bytes → ¬ r.Holds id p bytes

end Repository

/-- What is listed as changed in a stored graph is gone or different, if no commit stores a path
twice and none is called `HEAD`. -/
theorem Archive.tellsChanges_fixed {a : Archive} (hhead : a.record? "HEAD" = none)
    (hpaths : ∀ c ∈ a.commits, (c.files.map Prod.fst).Nodup) : a.fixed.TellsChanges := by
  intro id parent s paths hlisted p hp c hresolved bytes hold hnew
  have hchanges : a.changes id parent = .ok paths := still_ok hlisted
  have hblob : ∀ {id : String}, a.fixed.Holds id p bytes →
      (a.record? id).bind (·.file? p) = some bytes := by
    rintro id ⟨s, hs⟩
    have hread : a.blob id p = .ok bytes := still_ok hs
    unfold blob at hread
    split at hread
    · cases hread
    split at hread
    · rename_i hfile
      cases hread
      exact hfile
    · cases hread
  unfold changes at hchanges
  split at hchanges
  · cases hchanges
  split at hchanges
  swap
  · cases hchanges
    cases hp
  rename_i old new holdrecord hnewrecord
  cases hchanges
  -- a listed path was found at the parent, with a content that the commit does not store
  obtain ⟨⟨p', stored⟩, hfile, rfl⟩ := List.mem_map.mp (List.mem_mergeSort.mp hp)
  obtain ⟨hmem, hchanged⟩ := List.mem_filter.mp hfile
  have hparent : a.idOf parent = parent := by
    refine if_neg fun heq => ?_
    rw [eq_of_beq heq, hhead] at holdrecord
    cases holdrecord
  obtain ⟨record, -, hid, rfl⟩ := resolves_fixed hresolved
  have hcommit : (plainCommit record).id = parent := hid.trans hparent
  have holdfile := hblob hold
  rw [hcommit, holdrecord, Option.bind_some] at holdfile
  have hnewfile := hblob hnew
  rw [hnewrecord, Option.bind_some] at hnewfile
  obtain ⟨before, after, hfiles, -⟩ := List.lookup_eq_some_iff.mp holdfile
  have hsame : (p', stored) = (p', bytes) := by
    refine List.inj_on_of_nodup_map (hpaths old (List.mem_of_find?_eq_some holdrecord)) hmem ?_ rfl
    rw [hfiles]
    exact List.mem_append_right _ List.mem_cons_self
  cases hsame
  exact bne_iff_ne.mp hchanged hnewfile

/-! ### Moves from the seed of a tracker -/

namespace Tracker
variable {t : Tracker σ α} {s : Session σ}

/-- Following a move from the seed of a tracker to a parent gives a match, and the two have a
property. -/
def movesTo (t : Tracker σ α) (s : Session σ) (parentId : String)
    (p : Active → Match α → Bool) : Bool :=
  match t.start? s with
  | none => false
  | some (origin, _) =>
    match (t.walker.findMoved origin parentId ⟨s, .ofSeed origin⟩).1 with
    | .ok (some m) => p origin m
    | _ => false

theorem exists_of_movesTo {p : Active → Match α → Bool} (h : t.movesTo s parentId p = true) :
    ∃ origin m, (t.walker.findMoved origin parentId ⟨s, .ofSeed origin⟩).1 = .ok (some m) ∧
      p origin m = true := by
  unfold movesTo at h
  split at h
  · cases h
  · split at h
    · rename_i hmoved
      exact ⟨_, _, hmoved, h⟩
    · cases h

end Tracker

/-! ### What a followed move says -/

theorem ElementKind.stopsAtExtraction_eq (e : Element) :
    e.kind.stopsAtExtraction = !e.isLocal := by
  unfold Element.isLocal
  cases e.kind <;> rfl

namespace Walker

/-- **A followed move comes from a changed file.**  The match is in a file, other than that of the
element, which the repository lists as changed by the commit; so at the commit the file is gone or
different, if no others are listed.  It was built from what the file holds at the parent, and its
element is called like the one that was looked for.  Nothing else of the repository is looked at:
the match stays the same whatever the files hold at other commits than the parent. -/
theorem moved_from_changed_file {s : WalkState σ α} (hs : w.Remembers s.session.cache)
    (h : (w.findMoved origin parentId s).1 = .ok (some m)) :
    (∃ world paths, (w.repository.changedPaths origin.commit.id parentId world).1 = .ok paths ∧
      m.path ∈ paths) ∧
    m.path ≠ origin.path ∧
    (∃ suffix ∈ w.config.sourceSuffixes, suffix.toList <:+ m.path.toList) ∧
    (∃ bytes, w.repository.Holds m.commit.id m.path bytes ∧
      w.build bytes m.path = .ok m.model ∧
      (w.repository.TellsChanges → ¬ w.repository.Holds origin.commit.id m.path bytes)) ∧
    (m.element ∈ m.model.elements.toList ∧ m.element.kind = origin.element.kind ∧
      (m.lookup origin).Like m.element) ∧
    ∀ blob, (∀ parent, w.repository.Resolves parentId parent →
        ∀ path, blob parent.id path = w.repository.readBlob parent.id path) →
      ((w.reading blob).findMoved origin parentId s).1 = .ok (some m) := by
  have hmoved := movedFrom_of_findMoved hs h
  obtain ⟨world, paths, hpaths, hmem⟩ := hmoved.listed
  have hlisted : m.path ∈ paths := List.filter_sublist.subset hmem
  obtain ⟨s', hbuilt⟩ := hmoved.built
  obtain ⟨bytes, hbytes, hmodel⟩ := SessionM.buildModel_ok hbuilt
  have hholds : w.repository.Holds m.commit.id m.path bytes := ⟨_, hbytes⟩
  refine ⟨⟨world, paths, hpaths, hlisted⟩, hmoved.path_ne, hmoved.hasSuffix,
    ⟨bytes, hholds, hmodel, fun htells => ?_⟩,
    ⟨hmoved.mem_sameKind.1, hmoved.mem_sameKind.2, hmoved.like⟩, fun blob hblob => ?_⟩
  · exact htells _ _ _ _ hpaths _ hlisted _ hmoved.parent bytes hholds
  · rw [findMoved_reading hblob]
    exact h

/-- A function was copied to another file, and its old file changed elsewhere. -/
def copiedToFile : Archive :=
  let f := "def f(a):\n    return a + 1\n"
  { commits := [
      { id := "r", files := [("y.py", f.toUTF8.toList)], committed := 1 },
      { id := "m", parents := ["r"], files := [("x.py", f.toUTF8.toList),
        ("y.py", (f ++ "Y = 2\n").toUTF8.toList)], committed := 2 }]
    head := "m" }

/-- A tracker of the copy. -/
def copyTracker : Tracker Unit Float := copiedToFile.fixedTracker "x.py" (.methodAt "f" 1)

/-- The copy is followed to the old file, which still declares the function. -/
theorem copyTracker_movesTo : copyTracker.movesTo ⟨(), {}, []⟩ "r" (fun origin m =>
    match (SessionM.buildModel copyTracker.walker.repository copyTracker.walker.build
      origin.commit.id m.path ⟨(), {}, []⟩).1 with
    | .ok (.model model) => model.hasDeclaration m.element.kind m.element.qualifiedName
    | _ => false) = true := by
  decide +kernel

theorem moved_from_changed_file_copy : ∃ origin m,
    copyTracker.walker.Remembers {} ∧ copyTracker.walker.repository.TellsChanges ∧
    (copyTracker.walker.findMoved origin "r" ⟨⟨(), {}, []⟩, .ofSeed origin⟩).1 = .ok (some m) ∧
    m.path ≠ origin.path ∧ (m.lookup origin).Like m.element ∧
    ∃ bytes, copyTracker.walker.repository.Holds m.commit.id m.path bytes ∧
      copyTracker.walker.build bytes m.path = .ok m.model ∧
      ¬ copyTracker.walker.repository.Holds origin.commit.id m.path bytes := by
  obtain ⟨origin, m, hmoved, -⟩ := Tracker.exists_of_movesTo copyTracker_movesTo
  have htells : copyTracker.walker.repository.TellsChanges :=
    Archive.tellsChanges_fixed (a := copiedToFile) (by decide) (by decide)
  obtain ⟨-, hpath, -, ⟨bytes, hholds, hmodel, hgone⟩, ⟨-, -, hlike⟩, -⟩ :=
    moved_from_changed_file remembers_empty hmoved
  exact ⟨origin, m, remembers_empty, htells, hmoved, hpath, hlike, bytes, hholds, hmodel,
    hgone htells⟩

theorem not_moved_away : ¬ ∀ origin m model,
    (copyTracker.walker.findMoved origin "r" ⟨⟨(), {}, []⟩, .ofSeed origin⟩).1 = .ok (some m) →
    copyTracker.walker.Builds origin.commit.id m.path (.model model) →
    model.hasDeclaration m.element.kind m.element.qualifiedName = false := by
  intro hclaim
  obtain ⟨origin, m, hmoved, hdeclares⟩ := Tracker.exists_of_movesTo copyTracker_movesTo
  split at hdeclares
  · rename_i model hbuilt
    rw [hclaim origin m model hmoved ⟨_, hbuilt⟩] at hdeclares
    cases hdeclares
  · cases hdeclares

/-- **The label of a followed move.**  It is a change of container unless the move is mistaken.  A
walk whose element is not a block or a variable ends at the match exactly if the match is a new
version of the history and the move is mistaken. -/
theorem moved_label_iff (hbuild : ∀ bytes path m, w.build bytes path = .ok m → m.path = path)
    (horigin : origin.model.path = origin.path) {s : WalkState σ α}
    (hs : w.Remembers s.session.cache)
    (h : (w.findMoved origin parentId s).1 = .ok (some m)) :
    (m.kind = .containerChange ↔
      ¬ (m.lookup origin).Mistaken w.matching.fragmentRatio m.element) ∧
    ∀ (s' : WalkState σ α) branches, s'.run.kind = origin.element.kind →
      (w.extend origin m s').1 = .ok branches →
      ((∃ t, .terminated t ∈ branches) ↔ s'.run.known? m = none ∧
        origin.element.isLocal = false ∧
        (m.lookup origin).Mistaken w.matching.fragmentRatio m.element) := by
  have hmoved := movedFrom_of_findMoved hs h
  obtain ⟨chosen, hfound, helement⟩ := hmoved.accepted
  obtain ⟨_, hbuilt⟩ := hmoved.built
  obtain ⟨bytes, -, hmodel⟩ := SessionM.buildModel_ok hbuilt
  have hpath : (m.lookup origin).later.path ≠ (m.lookup origin).earlier.path := by
    show origin.model.path ≠ m.model.path
    rw [horigin, hbuild _ _ _ hmodel]
    exact hmoved.path_ne.symm
  obtain ⟨hcontainer, hextract⟩ := Lookup.label_elsewhere hpath hfound
  rw [helement] at hcontainer hextract
  refine ⟨hcontainer, fun s' branches hkind hextend => ?_⟩
  obtain ⟨s'', hs'', -⟩ := w.extend_apply origin m s'
  rw [hs''] at hextend
  cases hextend
  unfold Run.opened
  cases hknown : s'.run.known? m with
  | some i => simp
  | none =>
    rw [hkind, ElementKind.stopsAtExtraction_eq]
    cases hlocal : origin.element.isLocal with
    | true => simp
    | false =>
      -- a branch ends at a new version exactly if the match is labelled an extraction
      rw [← hextract hlocal]
      by_cases hkind : m.kind = .extract <;> simp [hkind]

/-- A method was moved to a class of another name in another file, where a function that is called
like its old class has a function that is called like the method. -/
def movedBesideNamesake : Archive :=
  let run := "    def run(self):\n        return 1\n"
  { commits := [
      { id := "r", files := [("y.py", ("class Job:\n" ++ run).toUTF8.toList)], committed := 1 },
      { id := "m", parents := ["r"], files := [("x.py",
        ("class Task:\n" ++ run ++ "def Job():\n" ++ run).toUTF8.toList)], committed := 2 }]
    head := "m" }

/-- A tracker of the moved method. -/
def movedMethodTracker : Tracker Unit Float :=
  movedBesideNamesake.fixedTracker "x.py" (.methodAt "run" 2)

/-- The move is labelled an extraction from the old method. -/
theorem movedMethodTracker_movesTo : movedMethodTracker.movesTo ⟨(), {}, []⟩ "r" (fun origin m =>
    origin.model.path = origin.path ∧ origin.element.qualifiedName = "Task.run" ∧
      m.element.qualifiedName = "Job.run" ∧ m.kind = .extract) = true := by
  decide +kernel

theorem moved_label_iff_movedMethod : ∃ origin m,
    (∀ bytes path m, movedMethodTracker.walker.build bytes path = .ok m → m.path = path) ∧
    origin.model.path = origin.path ∧ movedMethodTracker.walker.Remembers {} ∧
    (movedMethodTracker.walker.findMoved origin "r" ⟨⟨(), {}, []⟩, .ofSeed origin⟩).1
      = .ok (some m) ∧
    (m.lookup origin).Mistaken movedMethodTracker.walker.matching.fragmentRatio m.element := by
  obtain ⟨origin, m, hmoved, hfacts⟩ := Tracker.exists_of_movesTo movedMethodTracker_movesTo
  obtain ⟨horigin, -, -, hkind⟩ := of_decide_eq_true hfacts
  have hbuild : ∀ bytes path m, movedMethodTracker.walker.build bytes path = .ok m →
      m.path = path := by
    intro bytes path m hmodel
    replace hmodel : Model.ofBytes (fun _ => none) bytes path = .ok m := hmodel
    exact Source.path_ofBytes hmodel
  refine ⟨origin, m, hbuild, horigin, remembers_empty, hmoved, ?_⟩
  have hlabel := (moved_label_iff hbuild horigin remembers_empty hmoved).1
  rw [hkind] at hlabel
  exact Classical.not_not.mp fun hnot => nomatch hlabel.mpr hnot

theorem not_moved_as_container_change : ¬ ∀ origin m,
    (movedMethodTracker.walker.findMoved origin "r" ⟨⟨(), {}, []⟩, .ofSeed origin⟩).1
      = .ok (some m) → m.kind = .containerChange := by
  intro hclaim
  obtain ⟨origin, m, hmoved, hfacts⟩ := Tracker.exists_of_movesTo movedMethodTracker_movesTo
  obtain ⟨-, -, -, hkind⟩ := of_decide_eq_true hfacts
  exact nomatch hkind.symm.trans (hclaim origin m hmoved)

end Walker

end Lineage
