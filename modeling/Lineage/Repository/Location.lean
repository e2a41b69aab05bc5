import Lineage.Repository.Access

/-!
Where repositories are: paths in their normal form, and opening the repository at a path.
-/

namespace Lineage

/-- The normal form of a path: no empty parts and no parts that are a single point. Two slashes at the
start, and no more, are kept apart from one. -/
def normalPath (path : String) : String :=
  let parts := (path.splitOn "/").filter fun p => p != "" && p != "."
  let slashes := (path.toList.takeWhile (· == '/')).length
  let root := if slashes = 2 then "//" else if slashes = 0 then "" else "/"
  let normal := root ++ "/".intercalate parts
  if normal.isEmpty then "." else normal

/-- The places where repositories may be: which paths exist, and what is a repository. -/
structure Places (ρ : Type) where
  isThere (path : String) : Bool
  repository? (path : String) : Option ρ

namespace Places

variable {ρ : Type}

/-- Opens the repository at a path. -/
def openAt (p : Places ρ) (path : String) : Except RepositoryFault ρ :=
  let path := normalPath path
  match p.repository? path with
  | some r => .ok r
  | none =>
    if p.isThere path then .error ⟨"Invalid Git repository: " ++ path, none, none⟩
    else .error ⟨"Repository path does not exist: " ++ path, none, none⟩

end Places

end Lineage
