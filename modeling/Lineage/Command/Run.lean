import Lineage.Command.Request
import Lineage.Event.Log
import Lineage.History.Listing
import Lineage.History.Saved
import Lineage.Matching.Settings
import Lineage.Repository.Location

/-!
What a command does: what it prints, what it saves, what it tells a log, and how it ends.
-/

namespace Lineage.Command

/-- A repository that was opened: its answers, the state of the world, how models are built from its
files, and a bound for walks over it. -/
structure Opened (σ : Type) where
  repository : Repository σ
  world : σ
  build : ModelBuilder
  steps : Nat

/-- Where commands run: the repositories, environment variables, and which paths are directories. -/
structure Host (σ : Type) where
  places : Places (Opened σ)
  environment : Input.Environment := []
  isDirectory (path : String) : Bool
  seconds : Float

/-- The end of a command: the lines it printed, the values it saved by path, the events it told, and
the code with which it ends. -/
structure Outcome where
  code : Nat := 0
  lines : List String := []
  saved : List (String × Json) := []
  log : Log := {}
  events : List Event := []

/-- The code of a command that failed. -/
def failed : Nat := 1

/-- The code of a command line that was not understood. -/
def misused : Nat := 2

/-- Complaints in words: how many there are about what, and each with its place. -/
def complaintText (title : String) (cs : List Input.Complaint) : String :=
  let place : Input.Place → String
    | .field name => name
    | .item i => toString i
  let one (c : Input.Complaint) : String :=
    ".".intercalate (c.path.map place) ++ "\n  " ++ c.problem.message ++ " [type=" ++ c.problem.word ++ "]"
  "\n".intercalate
    ((toString cs.length ++ " validation error" ++ (if cs.length = 1 then "" else "s") ++ " for " ++ title)
      :: cs.map one)

/-- Refused settings in words. -/
def settingsText (title : String) : Input.SettingsFault → String
  | .unreadable f => f.message
  | .values cs => complaintText title cs

/-- A tracker that could not be made, in words. -/
def trackerText : TrackerFault → String
  | .invalid kind cs => (TrackerFault.invalid kind cs).message ++ ": " ++ complaintText "TrackerConfig" cs
  | f => f.message

/-- The lines of a message about a failure. A message with a bad style tag is not shown. -/
def failureLines (message : String) : List String :=
  match Console.plain ("[bold red]Error:[/bold red] " ++ message) with
  | .ok s => s.splitOn "\n"
  | .error _ => []

namespace TrackRequest

variable {σ : Type}

/-- The settings that a request gives for the walk. -/
def history (r : TrackRequest) (env : Input.Environment) : Except String HistoryConfig :=
  (HistoryConfig.read env [("max_commits", r.maxCommits), ("max_seconds", r.maxSeconds),
    ("follow_moves", .bool r.followMoves)]).mapError (settingsText "HistoryConfig")

/-- The settings that a request gives for matching. -/
def matching (r : TrackRequest) (env : Input.Environment) : Except String (MatchingConfig Float) :=
  (MatchingConfig.read env (r.threshold.toList.map fun t => ("threshold", t))).mapError
    (settingsText "MatchingConfig")

/-- The start that a request gives. -/
def start (r : TrackRequest) : Except String TrackerConfig :=
  let offer : Offer := .object (Offer.needed.map (·.name))
  (TrackerConfig.ofFields r.kind offer (.text r.commit) (.text r.path) r.locator).mapError trackerText

/-- The log of a request. -/
def log (r : TrackRequest) (c : HistoryConfig) : Log :=
  { least := if r.verbose then .debug else Level.ofName c.logLevel }

/-- The history that is asked for, with the events on the way. -/
def run (r : TrackRequest) (host : Host σ) (c : HistoryConfig) :
    Except String (History Float) × List Event :=
  let prepared : Except String (Opened σ × MatchingConfig Float × TrackerConfig) := do
    let matching ← r.matching host.environment
    let opened ← (host.places.openAt r.repository).mapError (·.message)
    return (opened, matching, ← r.start)
  match prepared with
  | .error message => (.error message, [])
  | .ok (opened, matching, config) =>
    let tracker : Tracker σ Float :=
      { config, steps := opened.steps
        walker := ⟨opened.repository, opened.build, matching, c,
          fun x => .float (Decimal.roundTo 3 x), fun _ => false, fun _ => host.seconds⟩ }
    let (result, session) := tracker.track { world := opened.world }
    (result.mapError (·.message), session.events.reverse)

/-- The outcome of saving a history. -/
def save (host : Host σ) (h : History Float) (path : String) : Except String (String × Json) :=
  let path := normalPath path
  if host.isDirectory path then .error ("[Errno 21] Is a directory: " ++ Json.quoted path)
  else .ok (path, h.toJson .float)

/-- Does what a request asks for. What was printed before a failure stays. -/
def outcome (r : TrackRequest) (host : Host σ) : Outcome :=
  let failure (before : List String) (o : Outcome) (message : String) : Outcome :=
    { o with code := failed, lines := before ++ failureLines message }
  match r.history host.environment with
  | .error message => failure [] {} message
  | .ok c =>
    let (result, events) := r.run host c
    let o : Outcome := { log := r.log c, events }
    match result with
    | .error message => failure [] o message
    | .ok h =>
      match h.listing (Decimal.fixed 2) with
      | .error f => failure [""] o f.message
      | .ok lines =>
        match r.output with
        | none => { o with lines }
        | some path =>
          match save host h path with
          | .error message => failure lines o message
          | .ok (path, j) =>
            match Console.plain ("[bold green]✓[/bold green] Saved to " ++ path) with
            | .error f => failure lines { o with saved := [(path, j)] } f.message
            | .ok line => { o with lines := lines ++ [line], saved := [(path, j)] }

end TrackRequest

/-- The commands, one a line. -/
def usage : List String :=
  ["class REPOSITORY FILE NAME [--line LINE]", "method REPOSITORY FILE NAME LINE",
    "attribute REPOSITORY FILE NAME LINE",
    "variable REPOSITORY FILE NAME LINE [--method NAME --method-line LINE]",
    "block REPOSITORY FILE METHOD LINE TYPE FIRST LAST", "version"]

/-- The version of the program. -/
def version : String := "codetrail version 0.1.0"

/-- Runs a command line. -/
def run {σ : Type} (host : Host σ) (words : List String) : Outcome :=
  match Request.read? words with
  | none => { code := misused }
  | some .help => { lines := usage }
  | some .version => { lines := [version] }
  | some (.track r) => r.outcome host

end Lineage.Command
