import Lineage.Event
import Lineage.Time.Moment

/-!
Read access to a version-controlled repository.

A repository answers four questions: which commit an identifier names, which earlier versions of a
file the parents of a commit hold, what a file contains at a commit, and which files a commit
changed. Answers may depend on the state of the world `σ` and change it, so a repository may fail at
one time and succeed at another. Each answer comes with the events that it was accompanied by.
-/

namespace Lineage

/-- A commit: a node of the commit graph. -/
structure Commit where
  id : String
  shortId : String
  parentIds : List String
  authorName : String
  authorEmail : String := ""
  committerName : String := ""
  committerEmail : String := ""
  authoredAt : Time.Moment
  committedAt : Time.Moment
  summary : Option String := none
  deriving DecidableEq, Repr

namespace Commit

/-- How many characters of an identifier are shown. -/
def shortLength : Nat := 7

/-- The start of an identifier. -/
def short (id : String) : String := String.ofList (id.toList.take shortLength)

/-- A commit with more than one parent. -/
def isMerge (c : Commit) : Bool := 1 < c.parentIds.length

/-- A commit without parents. -/
def isRoot (c : Commit) : Bool := c.parentIds.isEmpty

end Commit

/-- The previous version of a file as seen from one parent of a commit: the commit that made this
version, the path of the file there, and the parent. -/
structure ParentVersion where
  commit : Commit
  path : String
  viaParent : String
  deriving DecidableEq, Repr

/-- A commit or file that cannot be read. -/
structure RepositoryFault where
  message : String
  commitId : Option String := none
  path : Option String := none
  deriving DecidableEq, Repr

/-- Why a repository gives no answer: it cannot read what was asked for, or it is an object that does
not take the question at all. -/
inductive Refusal where
  | fault (f : RepositoryFault)
  | unsupported
  deriving DecidableEq, Repr

/-- A question to a repository: an answer or a refusal, the events on the way, and the state of the
world after it. -/
def Asked (σ α : Type) : Type := σ → Except Refusal α × List Event × σ

/-- The questions that can be put to a repository. -/
inductive Question where
  | resolve
  | parentsTouching
  | readBlob
  | changedPaths
  deriving DecidableEq, Repr

/-- The name of a question. -/
def Question.name : Question → String
  | resolve => "resolve_commit"
  | parentsTouching => "parents_touching"
  | readBlob => "read_blob"
  | changedPaths => "changed_paths"

/-- The answers to the four questions. -/
structure Repository (σ : Type) where
  resolve (id : String) : Asked σ Commit
  parentsTouching (id path : String) : Asked σ (List ParentVersion)
  readBlob (id path : String) : Asked σ (List UInt8)
  changedPaths (id parent : String) : Asked σ (List String)

namespace Asked

variable {σ α : Type}

/-- An answer that leaves the world as it is. -/
def still (answer : Except RepositoryFault α) (events : List Event) : Asked σ α := fun s =>
  (answer.mapError .fault, events, s)

/-- The refusal of an object that does not take the question. -/
def unsupported : Asked σ α := fun s => (.error .unsupported, [], s)

/-- Asks after the world has changed. -/
def after (change : σ → σ) (q : Asked σ α) : Asked σ α := fun s => q (change s)

/-- Asks about a part of the world. -/
def within {τ : Type} (part : τ → σ) (put : σ → τ → τ) (q : Asked σ α) : Asked τ α := fun t =>
  let (answer, events, s) := q (part t)
  (answer, events, put s t)

end Asked

namespace Repository

variable {σ : Type}

/-- Counts the questions for parent versions: `tick` changes the world before each of them. -/
def ticking (tick : σ → σ) (r : Repository σ) : Repository σ :=
  { r with parentsTouching := fun id path => (r.parentsTouching id path).after tick }

/-- A repository that takes only some questions. -/
def taking (takes : Question → Bool) (r : Repository σ) : Repository σ where
  resolve id := if takes .resolve then r.resolve id else .unsupported
  parentsTouching id path :=
    if takes .parentsTouching then r.parentsTouching id path else .unsupported
  readBlob id path := if takes .readBlob then r.readBlob id path else .unsupported
  changedPaths id parent := if takes .changedPaths then r.changedPaths id parent else .unsupported

/-- The repository as seen from a larger world. -/
def within {τ : Type} (part : τ → σ) (put : σ → τ → τ) (r : Repository σ) : Repository τ where
  resolve id := (r.resolve id).within part put
  parentsTouching id path := (r.parentsTouching id path).within part put
  readBlob id path := (r.readBlob id path).within part put
  changedPaths id parent := (r.changedPaths id parent).within part put

end Repository

end Lineage
