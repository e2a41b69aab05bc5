import Lineage.Repository.Access

/-!
A commit graph as plain data: commits with their parents and the full tree of files, and which of its
objects are damaged.
-/

namespace Lineage

/-- The contents of files by path. -/
abbrev Files : Type := List (String × List UInt8)

/-- A commit as it is stored. `renames` gives the old path of a file that the commit renamed. Times
are seconds since the start of 1970. -/
structure CommitRecord where
  id : String
  parents : List String := []
  files : Files := []
  renames : List (String × String) := []
  authored : Int := 0
  committed : Int := 0
  author : Option String := none
  authorEmail : Option String := none
  committer : Option String := none
  committerEmail : Option String := none
  message : String := ""

/-- Objects that cannot be read, and commits whose log is empty. -/
structure Damage where
  commits : List String := []
  logs : List String := []
  diffs : List String := []
  blobs : List (String × String) := []
  emptyLogs : List String := []

/-- A stored commit graph. `head` is the commit that `HEAD` names. -/
structure Archive where
  commits : List CommitRecord
  head : String
  damage : Damage := {}

namespace CommitRecord

/-- The content of a file. -/
def file? (c : CommitRecord) (path : String) : Option (List UInt8) := c.files.lookup path

/-- The path that a file had before the commit. -/
def oldPath (c : CommitRecord) (path : String) : String := (c.renames.lookup path).getD path

/-- Some file lies below a directory. -/
def hasDirectory (c : CommitRecord) (path : String) : Bool :=
  c.files.any fun f => (path ++ "/").toList.isPrefixOf f.1.toList && f.1 != path ++ "/"

end CommitRecord

namespace Archive

/-- The identifier that a revision stands for. -/
def idOf (a : Archive) (revision : String) : String := if revision == "HEAD" then a.head else revision

/-- A commit by its identifier. -/
def record? (a : Archive) (id : String) : Option CommitRecord := a.commits.find? (·.id == id)

/-- A commit that is not damaged. -/
def readable? (a : Archive) (id : String) : Option CommitRecord :=
  if a.damage.commits.contains id then none else a.record? id

/-- The paths of the files of `old` that `new` changed or removed, in order. -/
def changedFiles (old new : CommitRecord) : List String :=
  ((old.files.filter fun f => new.file? f.1 != some f.2).map (·.1)).mergeSort fun a b => a ≤ b

end Archive

end Lineage
