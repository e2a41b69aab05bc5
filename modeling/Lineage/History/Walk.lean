import Lineage.History.Match

/-!
The walk back from an element.

A work list holds the branches of the history that are still open, first come first served. An active
branch is a version whose parents are to be examined; a branching one has several parent versions to
match; a terminated one ends at a node. Each step takes the first branch and puts what comes of it at
the end of the list.
-/

namespace Lineage

/-- A branch of a history that is still open. -/
inductive Branch where
  | active (a : Active)
  | branching (origin : Active) (pending : List ParentVersion)
  | terminated (t : Termination)

namespace Branch

/-- The node at which a branch stands. -/
def node : Branch → Int
  | active a => a.node
  | branching origin _ => origin.node
  | terminated t => t.node

/-- How a branch ends when the budget is used up. -/
def cut : Branch → Termination
  | terminated t => t
  | b => ⟨b.node, .budgetExceeded, none, none⟩

end Branch

/-- The kinds whose history ends where they were extracted: the earlier element is another
declaration. -/
def ElementKind.stopsAtExtraction : ElementKind → Bool
  | .classDecl | .methodDecl | .attributeDecl => true
  | .variableDecl | .blockStmt => false

/-- What becomes of one parent version: an error ends the branch, a match extends it, or the element
is not there. -/
inductive Resolution where
  | failed (t : Termination)
  | matched (next : List Branch)
  | absent

namespace Resolution

/-- The branches that a resolution leaves. -/
def branches : Resolution → List Branch
  | failed t => [.terminated t]
  | matched next => next
  | absent => []

/-- The element is not there. -/
def isAbsent : Resolution → Bool
  | absent => true
  | _ => false

end Resolution

/-- Ends all branches because the budget is used up. -/
def Walk.stopAll {σ α : Type} (current : Active) (rest : List Branch) : Walk σ α Unit := do
  Walk.onRun fun r => { r with budgetExceeded := true }
  Walk.tell .warning "budget_exceeded"
    [("commits", .int (← get).run.report.commitsAnalysed), ("pending", .nat (rest.length + 1))]
  Walk.terminate ⟨current.node, .budgetExceeded, none, none⟩
  rest.forM fun b => Walk.terminate b.cut

namespace Walker

variable {σ α : Type} [Score α] (w : Walker σ α)

/-- Adds the earlier version that a match found. A version that is known already has its own
branch. -/
def extend (origin : Active) (m : Match α) : Walk σ α (List Branch) := do
  let (node, isNew, run) := (← get).run.nodeFor m.commit m.path m.element
  Walk.onRun fun _ => run
  Walk.onRun (·.addEdge ⟨origin.node, node, m.kind, m.score, origin.commit.id⟩)
  Walk.tell .debug "element_matched" [("commit", .text m.commit.shortId),
    ("element", .text m.element.qualifiedName), ("change", .text m.kind.text),
    ("score", w.shown m.score)]
  if !isNew then return []
  if m.kind = .extract && run.kind.stopsAtExtraction then
    return [.terminated ⟨node, .extracted, some m.commit.id, none⟩]
  return [.active ⟨node, m.commit, m.path, m.model, m.element⟩]

/-- Looks for the element in another file, if moves are followed. -/
def followMove (origin : Active) (parentId : String) : Walk σ α (Option (Match α)) :=
  if w.config.followMoves then w.findMoved origin parentId else return none

/-- Matches the element in one parent version. -/
def resolveVersion (origin : Active) (v : ParentVersion) : Walk σ α Resolution := do
  match ← Walk.attempt (w.matchIn origin v.commit v.path) with
  | .error f =>
    Walk.tell .warning "revision_unreadable" [("commit", .text v.commit.shortId),
      ("path", .text v.path), ("error", .text f.message)]
    return .failed ⟨origin.node, .repositoryError, some v.commit.id, some f.message⟩
  | .ok .unparseable => return .failed ⟨origin.node, .unparseable, some v.commit.id, none⟩
  | .ok (.found m) => return .matched (← w.extend origin m)
  | .ok .absent =>
    match ← w.followMove origin v.viaParent with
    | some m => return .matched (← w.extend origin m)
    | none => return .absent

/-- The branches that resolutions leave. Where the element is in no parent version it was
introduced. -/
def settle (origin : Active) (rs : List Resolution) : List Branch :=
  rs.flatMap Resolution.branches
    ++ if rs.all Resolution.isAbsent then [.terminated ⟨origin.node, .introduced, none, none⟩] else []

/-- Matches the element in each parent version independently. -/
def resolve (origin : Active) (pending : List ParentVersion) : Walk σ α (List Branch) := do
  return settle origin (← pending.mapM (w.resolveVersion origin))

/-- Follows a move from each parent, for a file that did not exist before. -/
def movesFrom (a : Active) (parentId : String) : Walk σ α (List Branch) := do
  match ← w.followMove a parentId with
  | some m => w.extend a m
  | none => return []

/-- Examines the parents of an active branch. -/
def nextBranches (a : Active) : Walk σ α (List Branch) := do
  Walk.onRun (Run.onReport fun r => { r with walkerCalls := r.walkerCalls + 1 })
  match ← Walk.attempt (Walk.inSession (parentVersions w.repository a.commit.id a.path)) with
  | .error f =>
    Walk.tell .warning "walker_failed" [("commit", .text a.commit.shortId), ("path", .text a.path),
      ("error", .text f.message)]
    return [.terminated ⟨a.node, .repositoryError, some a.commit.id, some f.message⟩]
  | .ok [] =>
    let branches := (← a.commit.parentIds.mapM (w.movesFrom a)).flatten
    if branches.isEmpty then return [.terminated ⟨a.node, .introduced, none, none⟩]
    return branches
  | .ok [v] => w.resolve a [v]
  | .ok versions =>
    Walk.tell .debug "branching" [("commit", .text a.commit.shortId),
      ("parents", .nat versions.length)]
    return [.branching a versions]

/-- Expands an active branch and counts it. -/
def advance (a : Active) : Walk σ α (List Branch) := do
  Walk.onRun (Run.onReport fun r => { r with commitsAnalysed := r.commitsAnalysed + 1 })
  let branches ← w.nextBranches a
  Walk.onRun (Run.onReport fun r => { r with processing := r.processing ++ [(a.commit.id, a.path)] })
  return branches

/-- The run was cancelled, or one of its budgets is used up. -/
def outOfBudget (s : WalkState σ α) : Bool :=
  w.cancelled s.session.world
    || w.config.maxCommits.any (· ≤ s.run.report.commitsAnalysed)
    || w.config.maxSeconds.any (· ≤ w.elapsed s.session.world)

/-- One step: takes the first branch, and gives the work list after it. -/
def step (first : Branch) (rest : List Branch) : Walk σ α (List Branch) := do
  match first with
  | .terminated t =>
    Walk.terminate t
    return rest
  | .branching origin pending => return rest ++ (← w.resolve origin pending)
  | .active a =>
    if w.outOfBudget (← get) then
      Walk.stopAll a rest
      return []
    return rest ++ (← w.advance a)

/-- At most `fuel` steps. Gives the branches that are open then. -/
def steps : Nat → List Branch → Walk σ α (List Branch)
  | _, [] => return []
  | 0, work => return work
  | fuel + 1, first :: rest => do steps fuel (← w.step first rest)

/-- The start of a walk: the seed is the first node. -/
def start (commit : Commit) (path : String) (m : Model) (e : Element) (s : Session σ) :
    WalkState σ α × List Branch :=
  let (node, _, run) := (Run.mk e.kind [] [] [] false {} : Run α).nodeFor commit path e
  (⟨s, run⟩, [.active ⟨node, commit, path, m, e⟩])

/-- The history of an element, by a walk of at most `fuel` steps. A walk that needs more gives no
history. -/
def history (fuel : Nat) (commit : Commit) (path : String) (m : Model) (e : Element) :
    SessionM σ (History α) := fun s =>
  let (state, work) := start commit path m e s
  let whole : Walk σ α Unit := do
    Walk.tell .info "history_started" [("commit", .text commit.shortId), ("path", .text path),
      ("element", .text e.qualifiedName), ("kind", .text e.kind.text)]
    if !(← w.steps fuel work).isEmpty then throw .unfinished
    let run := (← get).run
    Walk.tell .info "history_finished" [("element", .text e.qualifiedName),
      ("nodes", .nat run.nodes.length), ("changes", .nat run.toHistory.changes.length),
      ("commits", .int run.report.commitsAnalysed), ("budget_exceeded", .bool run.budgetExceeded)]
  match whole state with
  | (.ok (), final) => (.ok final.run.toHistory, final.session)
  | (.error stop, final) => (.error stop, final.session)

end Walker

end Lineage
