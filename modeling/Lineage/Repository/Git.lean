import Lineage.Input.Number
import Lineage.Repository.Memory

/-!
A Git repository over a store of objects.

The store knows commits, the entries of their trees, differences between two commits, and the last
commit that touched a file. `ObjectStore.repository` answers the questions of a repository with it:
a file is followed to the parents that contributed to it, through renames, and each parent version is
taken back to the commit that made it.
-/

namespace Lineage

/-- A commit object. -/
structure CommitObject where
  id : String
  parents : List String
  author : Option String
  authorEmail : Option String
  committer : Option String
  committerEmail : Option String
  authored : Int
  committed : Int
  message : String

/-- What a tree has at a path. Two blobs are the same object if their contents agree. -/
inductive TreeEntry where
  | blob (content : List UInt8)
  | directory
  deriving DecidableEq

/-- One changed file between two commits: its path before and after, whether it is new, and whether
it was renamed. -/
structure FileChange where
  before : String
  after : String
  isNew : Bool
  isRenamed : Bool
  deriving DecidableEq, Repr

/-- The objects of a Git repository. `revision?` looks up what a user names, `object?` what another
object names; reading, comparing and walking may fail with a text. -/
structure ObjectStore where
  revision? (name : String) : Option CommitObject
  object? (id : String) : Option CommitObject
  entryAt? (id path : String) : Option TreeEntry
  read (id path : String) : Except String (List UInt8)
  compare (parent commit : String) : Except String (List FileChange)
  lastTouching (start path : String) : Except String (Option CommitObject)

namespace ObjectStore

variable (g : ObjectStore)

/-- Characters that are stripped from the ends of a message. -/
def isBlank (c : Char) : Bool :=
  Input.Number.isBlank c || (0x1c ≤ c.toNat && c.toNat ≤ 0x1f)

/-- The first line of a message. -/
def summaryOf (message : String) : String :=
  let stripped := ((message.toList.dropWhile isBlank).reverse.dropWhile isBlank).reverse
  String.ofList (stripped.takeWhile (· != '\n'))

/-- The public view of a commit object. -/
def commitOf (c : CommitObject) : Commit where
  id := c.id
  shortId := Commit.short c.id
  parentIds := c.parents
  authorName := c.author.getD ""
  authorEmail := c.authorEmail.getD ""
  committerName := c.committer.getD ""
  committerEmail := c.committerEmail.getD ""
  authoredAt := .ofEpoch c.authored
  committedAt := .ofEpoch c.committed
  summary := some (summaryOf c.message)

/-- The commit that a revision names. -/
def commit (revision : String) : Except RepositoryFault CommitObject :=
  match g.revision? revision with
  | some c => .ok c
  | none => .error (Archive.notFound revision)

/-- The content of a file; a directory is no file. -/
def blob? (id path : String) : Option (List UInt8) :=
  match g.entryAt? id path with
  | some (.blob content) => some content
  | _ => none

/-- Reads a file. -/
def blob (revision path : String) : Except RepositoryFault (List UInt8) := do
  let c ← g.commit revision
  match g.blob? c.id path with
  | none =>
    throw ⟨"File " ++ path ++ " not found in commit " ++ Commit.short revision, some revision, some path⟩
  | some _ =>
    (g.read c.id path).mapError fun reason =>
      ⟨"Cannot read " ++ path ++ " at " ++ Commit.short revision ++ ": " ++ reason, some revision,
        some path⟩

/-- The differences between a parent and a commit, which are known under the given names. -/
def differences (parent commit : CommitObject) (parentName commitName : String) :
    Except RepositoryFault (List FileChange) :=
  (g.compare parent.id commit.id).mapError fun reason =>
    ⟨"Cannot diff " ++ Commit.short parentName ++ ".." ++ Commit.short commitName ++ ": " ++ reason,
      some commitName, none⟩

/-- The files of a parent that a commit changed, removed or renamed. -/
def changedPaths (commitName parentName : String) : Except RepositoryFault (List String) := do
  let c ← g.commit commitName
  let p ← g.commit parentName
  let changes ← g.differences p c parentName commitName
  let paths := (changes.filter fun d => !d.isNew && !d.before.isEmpty).map (·.before)
  return (paths.mergeSort fun a b => a ≤ b).eraseDups

/-- The event of a rename that was followed. -/
def renameFollowed (commit : CommitObject) (old new : String) : Event :=
  ⟨.debug, "rename_followed", [("commit", .text (Commit.short commit.id)), ("old_path", .text old),
    ("new_path", .text new)]⟩

/-- The path that a file had in a parent, and the events on the way; a rename by the commit is
followed. -/
def pathInParent (parent commit : CommitObject) (path : String) :
    Except RepositoryFault (Option String) × List Event :=
  match g.blob? parent.id path with
  | some _ => (.ok (some path), [])
  | none =>
    match g.differences parent commit parent.id commit.id with
    | .error f => (.error f, [])
    | .ok changes =>
      match changes.find? fun d => d.isRenamed && d.after == path with
      | some d => (.ok (some d.before), [renameFollowed commit d.before path])
      | none => (.ok none, [])

/-- The parents that a file came from, each with the path of the file there. A parent with the same
content is the only one. -/
def contributors (commit : CommitObject) (path : String) :
    List CommitObject → List (CommitObject × String) → List Event →
    Except RepositoryFault (List (CommitObject × String)) × List Event
  | [], found, events => (.ok found, events)
  | parent :: rest, found, events =>
    let (old?, more) := g.pathInParent parent commit path
    let events := events ++ more
    match old? with
    | .error f => (.error f, events)
    | .ok none => contributors commit path rest found events
    | .ok (some old) =>
      let own := g.blob? commit.id path
      if own.isSome && g.blob? parent.id old == own then (.ok [(parent, old)], events)
      else contributors commit path rest (found ++ [(parent, old)]) events

/-- The version of a file in a parent, taken back to the commit that made it. -/
def versionIn (parent : CommitObject) (path : String) : Except RepositoryFault ParentVersion :=
  match g.lastTouching parent.id path with
  | .ok touched => .ok ⟨commitOf (touched.getD parent), path, parent.id⟩
  | .error reason =>
    .error ⟨"Cannot read history of " ++ path ++ ": " ++ reason, some parent.id, some path⟩

/-- The versions of a file before a commit, with the events on the way. -/
def parentVersions (revision path : String) :
    Except RepositoryFault (List ParentVersion) × List Event :=
  match g.commit revision with
  | .error f => (.error f, [])
  | .ok c =>
    let (found, events) := g.contributors c path (c.parents.filterMap g.object?) [] []
    match found with
    | .error f => (.error f, events)
    | .ok found => (found.mapM fun p => g.versionIn p.1 p.2, events)

/-- The store as a repository; asking leaves the world as it is. -/
def repository {σ : Type} : Repository σ where
  resolve id := .still ((g.commit id).map commitOf) []
  parentsTouching id path := .still (g.parentVersions id path).1 (g.parentVersions id path).2
  readBlob id path := .still (g.blob id path) []
  changedPaths id parent := .still (g.changedPaths id parent) []

end ObjectStore

/-! ### A stored commit graph as an object store -/

namespace Archive

variable (a : Archive)

/-- A stored commit as an object. -/
def objectOf (c : CommitRecord) : CommitObject :=
  ⟨c.id, c.parents, c.author, c.authorEmail, c.committer, c.committerEmail, c.authored, c.committed,
    c.message⟩

/-- The text of a failed Git command. -/
def commandFailed (command : String) : String :=
  "Cmd('git') failed due to: exit code(128)\n  cmdline: git " ++ command

/-- The entry of the tree of a commit at a path. -/
def entryAt? (id path : String) : Option TreeEntry :=
  (a.record? id).bind fun c =>
    match c.file? path with
    | some content => some (.blob content)
    | none => if c.hasDirectory path then some .directory else none

/-- A recorded rename counts if the file left its old path and came to its new one. -/
def isRename (old new : CommitRecord) (oldPath newPath : String) : Bool :=
  (old.file? oldPath).isSome && (new.file? oldPath).isNone && (new.file? newPath).isSome
    && (old.file? newPath).isNone

/-- The changed files between two commits. -/
def fileChanges (old new : CommitRecord) : List FileChange :=
  let renames := new.renames.filter fun r => isRename old new r.2 r.1
  let added := new.files.filter fun f =>
    (old.file? f.1).isNone && !(renames.any fun r => r.1 == f.1)
  let changed := (changedFiles old new).filter fun p => !(renames.any fun r => r.2 == p)
  renames.map (fun r => ⟨r.2, r.1, false, true⟩) ++ added.map (fun f => ⟨f.1, f.1, true, false⟩)
    ++ changed.map fun p => ⟨p, p, false, false⟩

/-- Goes from a commit to a parent with the same content at a path, as long as there is one. -/
def lastTouch (path : String) : Nat → CommitRecord → CommitRecord
  | 0, c => c
  | fuel + 1, c =>
    match (c.parents.filterMap a.record?).find? fun p => p.file? path == c.file? path with
    | some p => lastTouch path fuel p
    | none => c

/-- The last commit that touched a file, from a commit on. -/
def lastTouching (start path : String) : Except String (Option CommitObject) :=
  if a.damage.logs.contains start then .error (commandFailed "rev-list")
  else
    .ok ((a.record? start).bind fun c =>
      let last := a.lastTouch path a.commits.length c
      if (last.file? path).isSome && !a.damage.emptyLogs.contains last.id then some (objectOf last)
      else none)

/-- The stored graph as an object store. -/
def objectStore : ObjectStore where
  revision? name := (a.readable? (a.idOf name)).map objectOf
  object? id := (a.record? id).map objectOf
  entryAt? := a.entryAt?
  read id path :=
    if a.damage.blobs.contains (id, path) then .error "bad object"
    else
      match (a.record? id).bind (·.file? path) with
      | some content => .ok content
      | none => .error "bad object"
  compare parent commit :=
    if a.damage.diffs.contains commit then .error (commandFailed "diff")
    else
      match a.record? parent, a.record? commit with
      | some old, some new => .ok (fileChanges old new)
      | _, _ => .ok []
  lastTouching := a.lastTouching

end Archive

end Lineage
