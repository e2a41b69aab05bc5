import Lineage.Repository.Archive

/-!
The plainest repository over a stored commit graph: every parent that has a file is a version of it,
and renames are those that the commits record.
-/

namespace Lineage.Archive

/-- The public view of a stored commit. -/
def plainCommit (c : CommitRecord) : Commit where
  id := c.id
  shortId := Commit.short c.id
  parentIds := c.parents
  authorName := c.author.getD ""
  authoredAt := .ofEpoch c.authored
  committedAt := .ofEpoch c.committed

/-- The fault of a commit that is not there. -/
def notFound (id : String) : RepositoryFault := ⟨"Commit not found: " ++ id, some id, none⟩

/-- The commit that a revision names. -/
def resolve (a : Archive) (revision : String) : Except RepositoryFault Commit :=
  let id := a.idOf revision
  match a.readable? id with
  | some c => .ok (plainCommit c)
  | none => .error (notFound id)

/-- The version of a file in one parent, if the parent has the file. -/
def parentVersion? (a : Archive) (path parent : String) :
    Except RepositoryFault (Option ParentVersion) :=
  match (a.record? parent).bind (·.file? path) with
  | none => .ok none
  | some _ => (a.resolve parent).map fun c => some ⟨c, path, parent⟩

/-- The versions of a file in the parents of a commit. -/
def parentVersions (a : Archive) (id path : String) : Except RepositoryFault (List ParentVersion) :=
  if a.damage.logs.contains id then .error ⟨"corrupt object", some id, none⟩
  else
    match a.record? id with
    | none => .ok []
    | some c => do
      let versions ← c.parents.mapM (a.parentVersion? (c.oldPath path))
      return versions.filterMap fun v => v

/-- The content of a file. -/
def blob (a : Archive) (id path : String) : Except RepositoryFault (List UInt8) :=
  if a.damage.blobs.contains (id, path) then .error ⟨"cannot read blob", some id, some path⟩
  else
    match (a.record? id).bind (·.file? path) with
    | some bytes => .ok bytes
    | none => .error ⟨"File " ++ path ++ " not found", some id, some path⟩

/-- The files of a parent that a commit changed or removed. -/
def changes (a : Archive) (id parent : String) : Except RepositoryFault (List String) :=
  if a.damage.diffs.contains id then .error ⟨"cannot diff", some id, none⟩
  else
    match a.record? parent, a.record? id with
    | some old, some new => .ok (changedFiles old new)
    | _, _ => .ok []

/-- The stored graph as a repository; the graph itself is the world. If it is `plain` it does not know
which files a commit changed. -/
def memory (plain : Bool) : Repository Archive where
  resolve id a := Asked.still (a.resolve id) [] a
  parentsTouching id path a := Asked.still (a.parentVersions id path) [] a
  readBlob id path a := Asked.still (a.blob id path) [] a
  changedPaths id parent a := Asked.still (if plain then .ok [] else a.changes id parent) [] a

end Lineage.Archive
