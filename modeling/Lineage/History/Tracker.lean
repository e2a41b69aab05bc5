import Lineage.Element.Locator
import Lineage.History.Walk

/-!
Trackers: what is needed to tell the history of an element, checked before anything is read.

A tracker is given a repository, a start commit, a path and a locator. A tracker that exists has been
checked; it fails only if the repository cannot be read or the element is not there.
-/

namespace Lineage

/-! ### Checking -/

/-- What is handed over as a repository: nothing, or an object that takes questions of some names. -/
inductive Offer where
  | nothing
  | object (questions : List String)

namespace Offer

/-- The questions that a tracker cannot do without. -/
def needed : List Question := [.resolve, .parentsTouching, .readBlob]

/-- Refuses an offer that lacks a question that is needed. -/
def lacking? : Offer → Option String
  | nothing => some "repository is required"
  | object questions =>
    (needed.find? fun q => !questions.contains q.name).map fun q =>
      "repository does not provide " ++ q.name ++ "()"

end Offer

/-- Where a history starts: a commit, a file and the element in it. -/
structure TrackerConfig where
  startCommit : String
  path : String
  locator : Locator
  deriving DecidableEq, Repr

namespace TrackerConfig

open Input Reader

/-- Reads a start. `offer` says what stands in the field of the repository. -/
def reader (offer : Json → Offer) : Reader TrackerConfig := fun j =>
  let parts : Reader (Offer × TrackerConfig) := fun j =>
    (fun o c p l => (o, ⟨c, p, l⟩)) <$> field "repository" (fun j => .valid (offer j)) j
      <*> field "start_commit" someText j
      <*> field "file_path" someText j
      <*> field "locator" Locator.reader j
  (satisfying (fun p => p.1.lacking?) parts j).map (·.2)

end TrackerConfig

namespace ElementKind

/-- The name of the trackers for a kind. -/
def trackerName : ElementKind → String
  | classDecl => "ClassTracker"
  | methodDecl => "MethodTracker"
  | attributeDecl => "AttributeTracker"
  | variableDecl => "VariableTracker"
  | blockStmt => "BlockTracker"

/-- The names of the fields that say which element of a kind is meant. -/
def locatorFields : ElementKind → List String
  | classDecl => ["class_name", "line"]
  | methodDecl => ["method_name", "method_line"]
  | attributeDecl => ["attribute_name", "attribute_line"]
  | variableDecl => ["method_name", "method_line", "variable_name", "variable_line"]
  | blockStmt => ["method_name", "method_line", "block_type", "start_line", "end_line"]

end ElementKind

/-- Why there is no tracker: a field is given that it does not have, or the start is not valid. -/
inductive TrackerFault where
  | unknownField (name : String)
  | invalid (kind : ElementKind) (complaints : List Input.Complaint)
  deriving DecidableEq, Repr

/-- The message for a tracker that could not be made. -/
def TrackerFault.message : TrackerFault → String
  | unknownField name => "unexpected field " ++ name
  | invalid kind _ => "Invalid " ++ kind.trackerName ++ " configuration"

/-- The locator that is given by fields; fields that are not given are null. -/
def ElementKind.givenLocator (kind : ElementKind) (fields : List (String × Json)) : Json :=
  .object (("kind", .text kind.text) :: kind.locatorFields.map fun name =>
    (name, (fields.lookup name).getD .null))

/-- Checks the start of a tracker for a kind of element. -/
def TrackerConfig.ofFields (kind : ElementKind) (offer : Offer) (startCommit path : Json)
    (fields : List (String × Json)) : Except TrackerFault TrackerConfig :=
  match fields.find? fun f => !kind.locatorFields.contains f.1 with
  | some f => .error (.unknownField f.1)
  | none =>
    let given : Json := .object [("repository", .null), ("start_commit", startCommit),
      ("file_path", path), ("locator", kind.givenLocator fields)]
    match reader (fun _ => offer) given with
    | .valid c => .ok c
    | .invalid complaints => .error (.invalid kind complaints)

/-! ### Tracking -/

/-- An element that cannot be found at the start. -/
structure SeedFault where
  path : String
  element : String
  line : Option Int
  deriving DecidableEq, Repr

/-- The message for an element that cannot be found. -/
def SeedFault.message (f : SeedFault) : String :=
  let place := match f.line with
    | some n => " at line " ++ toString n
    | none => ""
  "Cannot locate " ++ f.element ++ place ++ " in " ++ f.path

/-- Why a tracker gives no history. -/
inductive TrackFault where
  | stopped (stop : Stop)
  | seed (fault : SeedFault)
  deriving DecidableEq, Repr

/-- The message for a history that could not be told. -/
def TrackFault.message : TrackFault → String
  | stopped stop => stop.message
  | seed fault => fault.message

/-- A tracker. `steps` bounds the walk. -/
structure Tracker (σ α : Type) where
  config : TrackerConfig
  walker : Walker σ α
  steps : Nat

namespace Tracker

variable {σ α : Type} (t : Tracker σ α)

/-- The kind of element that is tracked. -/
def kind : ElementKind := t.config.locator.kind

/-- The fault of an element that is not there. -/
def notFound : SeedFault :=
  ⟨t.config.path, t.config.locator.describe, t.config.locator.line?⟩

/-- The start commit, with the element and its model if it can be found. -/
def seed? : SessionM σ (Commit × Option (Model × Element)) := do
  let commit ← SessionM.ask (t.walker.repository.resolve t.config.startCommit)
  match ← SessionM.modelOf t.walker.repository t.walker.build commit.id t.config.path with
  | .unparseable => return (commit, none)
  | .model m => return (commit, (t.config.locator.find? m).map fun e => (m, e))

/-- Tells the history of the element. What has been read until a failure stays in the cache. -/
def track [Score α] : Session σ → Except TrackFault (History α) × Session σ := fun s =>
  match t.seed? s with
  | (.error stop, s) => (.error (.stopped stop), s)
  | (.ok (_, none), s) => (.error (.seed t.notFound), s)
  | (.ok (commit, some (m, e)), s) =>
    let located : SessionM σ (History α) := do
      SessionM.tell .debug "seed_located" [("element", .text e.qualifiedName),
        ("lines", .text e.lines.text)]
      t.walker.history t.steps commit t.config.path m e
    let (result, s) := located s
    (result.mapError .stopped, s)

/-- Runs trackers one after the other in one session. -/
def trackEach [Score α] :
    List (Tracker σ α) → Session σ → List (Except TrackFault (History α)) × Session σ
  | [], s => ([], s)
  | t :: ts, s =>
    let (result, s) := t.track s
    let s := match result with
      | .ok _ => s
      | .error fault =>
        (SessionM.tell .error "tracker_failed" [("tracker", .text t.kind.trackerName),
          ("error", .text fault.message)] s).2
    let (results, s) := trackEach ts s
    (result :: results, s)

end Tracker

/-- Why a group of trackers gives no histories: nobody is to do the work, or one of them failed. -/
inductive GroupFault where
  | noWorkers
  | failed (fault : TrackFault)
  deriving DecidableEq, Repr

/-- The message for a group that gave no histories. -/
def GroupFault.message : GroupFault → String
  | noWorkers => "max_workers must be at least 1"
  | failed fault => fault.message

/-- The histories of independent trackers, in order. The failure of the earliest one that failed is
the failure of all. Trackers do not depend on each other, so how many run at a time does not matter,
as long as there is one. -/
def Tracker.trackAll {σ α : Type} [Score α] (workers : Int) (ts : List (Tracker σ α))
    (s : Session σ) : Except GroupFault (List (History α)) × Session σ :=
  if workers < 1 then (.error .noWorkers, s)
  else
    let (results, s) := trackEach ts s
    ((results.mapM id).mapError .failed, s)

end Lineage
