import Lineage.Repository.Archive
import Lineage.Sequence.Total

/-!
How long a walk over a stored commit graph can be. Each version of the element is expanded once, and
a version is an element of a file at a commit, so there are no more than the files have elements. An
element takes at least one byte of its file.
-/

namespace Lineage.Archive

/-- A number that the versions of an element do not exceed. `most` bounds the elements of files that
have more elements than bytes. -/
def versionBound (a : Archive) (most : Nat) : Nat :=
  Sequence.total (a.commits.map fun c =>
    Sequence.total (c.files.map fun f => max f.2.length most))

/-- The largest number of parents of a commit. -/
def maxParents (a : Archive) : Nat := a.commits.foldl (fun n c => max n c.parents.length) 0

/-- A number that the steps of a walk do not exceed: a version is expanded in one step, its parents
may be put off for another one, and each parent as well as the version itself may end a branch. -/
def stepBound (a : Archive) (most : Nat) : Nat :=
  (a.versionBound most + 1) * (a.maxParents + 4)

end Lineage.Archive
