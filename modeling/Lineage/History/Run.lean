import Lineage.History.Basic
import Lineage.History.Cache
import Lineage.History.Config
import Lineage.Matching.Config

/-!
The state of a walk: the history as far as it is known, and the operations that extend it. A version
that is reached twice is one node, a change that is found twice is one edge, and a branch that ends
twice for the same reason ends once.
-/

namespace Lineage

/-- The history as far as it is known. -/
structure Run (α : Type) where
  kind : ElementKind
  nodes : List HistoryNode := []
  edges : List (ChangeEdge α) := []
  terminations : List Termination := []
  budgetExceeded : Bool := false
  report : Report := {}

namespace Run

variable {α : Type}

/-- The node of a version that is not known yet. -/
def newNode (r : Run α) (c : Commit) (path : String) (e : Element) : HistoryNode where
  index := r.nodes.length
  commitId := c.id
  authorName := c.authorName
  authoredAt := c.authoredAt
  committedAt := c.committedAt
  path := path
  kind := e.kind
  qualifiedName := e.qualifiedName
  signature := e.signature.text
  lines := e.lines

/-- The node with a key. -/
def nodeWith? (r : Run α) (key : VersionKey) : Option HistoryNode := r.nodes.find? (·.key = key)

/-- The place of the node of a version, and whether it is new. -/
def nodeFor (r : Run α) (c : Commit) (path : String) (e : Element) : Nat × Bool × Run α :=
  match r.nodes.findIdx? fun n => n.key = ⟨c.id, path, e.lines⟩ with
  | some i => (i, false, r)
  | none => (r.nodes.length, true, { r with nodes := r.nodes ++ [r.newNode c path e] })

/-- Adds an edge unless its two nodes have one. -/
def addEdge (r : Run α) (e : ChangeEdge α) : Run α :=
  if r.edges.any fun f => f.source = e.source ∧ f.target = e.target then r
  else { r with edges := r.edges ++ [e] }

/-- A branch has ended at a node for a reason and a commit. -/
def hasEnded (r : Run α) (t : Termination) : Bool :=
  r.terminations.any fun u => u.node = t.node ∧ u.reason = t.reason ∧ u.commitId = t.commitId

/-- Ends a branch. -/
def terminate (r : Run α) (t : Termination) : Run α :=
  { r with terminations := r.terminations ++ [t] }

/-- Changes the report. -/
def onReport (f : Report → Report) (r : Run α) : Run α := { r with report := f r.report }

/-- The finished history. -/
def toHistory (r : Run α) : History α :=
  ⟨r.kind, r.nodes, r.edges, r.terminations, r.budgetExceeded, r.report⟩

end Run

/-- What a walk works on. -/
structure WalkState (σ α : Type) where
  session : Session σ
  run : Run α

/-- An action of a walk. -/
abbrev Walk (σ α : Type) : Type → Type := ExceptT Stop (StateM (WalkState σ α))

/-- What a walk is made with: the repository, the model builder, the settings, how a score is shown
in an event, and what the world says about cancellation and the seconds since the start. -/
structure Walker (σ α : Type) where
  repository : Repository σ
  build : ModelBuilder
  matching : MatchingConfig α
  config : HistoryConfig
  shown : α → Json
  cancelled : σ → Bool
  elapsed : σ → Float

namespace Walk

variable {σ α β : Type}

/-- An action of the session. -/
def inSession (x : SessionM σ β) : Walk σ α β := fun w =>
  let (result, session) := x w.session
  (result, { w with session })

/-- Tells an event. -/
def tell (level : Level) (name : String) (fields : List (String × Json)) : Walk σ α Unit :=
  inSession (.tell level name fields)

/-- Changes the history. -/
def onRun (f : Run α → Run α) : Walk σ α Unit := modify fun w => { w with run := f w.run }

/-- Tries an action; a fault of the repository is a result. -/
def attempt (x : Walk σ α β) : Walk σ α (Except RepositoryFault β) := fun w =>
  match x w with
  | (.ok b, w) => (.ok (.ok b), w)
  | (.error (.repository f), w) => (.ok (.error f), w)
  | (.error stop, w) => (.error stop, w)

/-- Ends a branch, unless it has ended for the same reason before. -/
def terminate (t : Termination) : Walk σ α Unit := do
  if (← get).run.hasEnded t then return ()
  onRun (·.terminate t)
  let commit : Json := match t.commitId with
    | some id => if id.isEmpty then .null else .text (Commit.short id)
    | none => .null
  tell .debug "branch_terminated" [("node", .int t.node), ("reason", .text t.reason.text),
    ("commit", commit)]

end Walk

namespace Walker

variable {σ α : Type} (w : Walker σ α)

/-- The model of a file at a commit; the report counts whether it was in the cache. -/
def modelOf (id path : String) : Walk σ α CachedModel := do
  let cached := (← get).session.cache.contains (id, path)
  let m ← Walk.inSession (SessionM.modelOf w.repository w.build id path)
  let built : Int := match m with
    | .model _ => 1
    | .unparseable => 0
  if cached then Walk.onRun (Run.onReport fun r => { r with cacheHits := r.cacheHits + 1 })
  else
    Walk.onRun (Run.onReport fun r =>
      { r with cacheMisses := r.cacheMisses + 1, modelsBuilt := r.modelsBuilt + built })
  return m

/-- The versions with distinct commits, in order. -/
def distinct : List ParentVersion → List String → List ParentVersion
  | [], _ => []
  | v :: vs, seen =>
    if seen.contains v.commit.id then distinct vs seen else v :: distinct vs (v.commit.id :: seen)

/-- The previous versions of a file, one for each commit. -/
def parentVersions (r : Repository σ) (id path : String) : SessionM σ (List ParentVersion) := do
  let versions := distinct (← SessionM.ask (r.parentsTouching id path)) []
  SessionM.tell .debug "parent_versions" [("commit", .text (Commit.short id)), ("path", .text path),
    ("parents", .list (versions.map fun v => .text v.commit.shortId))]
  return versions

end Walker

end Lineage
