import Lineage.Element.Basic
import Lineage.Matching.Change
import Lineage.Time.Moment

/-!
Histories of elements.

A history is a graph: its nodes are versions of the element, each at one commit; an edge leads from a
version to an earlier one and says what changed; a termination says why a branch ends at a node. The
first node is the version that the history was asked for.
-/

namespace Lineage

/-- Why a branch of a history ends. -/
inductive TerminationReason where
  | introduced
  | unparseable
  | repositoryError
  | budgetExceeded
  | extracted
  deriving DecidableEq, Repr, Inhabited

namespace TerminationReason

/-- All reasons. -/
def all : List TerminationReason :=
  [introduced, unparseable, repositoryError, budgetExceeded, extracted]

/-- The word for a reason. -/
def text : TerminationReason → String
  | introduced => "introduced"
  | unparseable => "unparseable"
  | repositoryError => "repository_error"
  | budgetExceeded => "budget_exceeded"
  | extracted => "extracted"

end TerminationReason

/-- What tells versions apart: commit, path and lines. -/
structure VersionKey where
  commitId : String
  path : String
  lines : LineRange
  deriving DecidableEq, Repr

/-- A version of the element at a commit. -/
structure HistoryNode where
  index : Int
  commitId : String
  authorName : String
  authoredAt : Time.Moment
  committedAt : Time.Moment
  path : String
  kind : ElementKind
  qualifiedName : String
  signature : String := ""
  lines : LineRange
  deriving DecidableEq, Repr

/-- The key of a version. -/
def HistoryNode.key (n : HistoryNode) : VersionKey := ⟨n.commitId, n.path, n.lines⟩

/-- A change, from a later node to an earlier one. -/
structure ChangeEdge (α : Type) where
  source : Int
  target : Int
  kind : ChangeKind
  score : α
  commitId : String

/-- The end of a branch at a node. -/
structure Termination where
  node : Int
  reason : TerminationReason
  commitId : Option String := none
  detail : Option String := none
  deriving DecidableEq, Repr

/-- Counters of a run. `tiers` counts the matches found by each tier in the order in which the tiers
first appeared; `processing` lists the commit and path of each version that was expanded. -/
structure Report where
  commitsAnalysed : Int := 0
  walkerCalls : Int := 0
  modelsBuilt : Int := 0
  cacheHits : Int := 0
  cacheMisses : Int := 0
  tiers : List (String × Int) := []
  processing : List (String × String) := []
  deriving DecidableEq, Repr

namespace Report

/-- Adds one to the count of a name. -/
def increment (name : String) : List (String × Int) → List (String × Int)
  | [] => [(name, 1)]
  | (n, count) :: rest => if n = name then (n, count + 1) :: rest else (n, count) :: increment name rest

/-- Counts a match that a tier found. -/
def countTier (r : Report) (tier : Tier) : Report :=
  { r with tiers := increment ("tier_" ++ toString tier.rank) r.tiers }

end Report

/-- The history of an element. -/
structure History (α : Type) where
  kind : ElementKind
  nodes : List HistoryNode := []
  edges : List (ChangeEdge α) := []
  terminations : List Termination := []
  budgetExceeded : Bool := false
  report : Report := {}

namespace History

variable {α : Type} (h : History α)

/-- The edges that lead from a node to earlier ones. -/
def outgoing (node : Int) : List (ChangeEdge α) := h.edges.filter (·.source = node)

/-- The edges that lead to a node. -/
def incoming (node : Int) : List (ChangeEdge α) := h.edges.filter (·.target = node)

/-- Why branches end at a node. -/
def reasonsAt (node : Int) : List TerminationReason :=
  (h.terminations.filter (·.node = node)).map (·.reason)

/-- The edges at which something changed. -/
def changes : List (ChangeEdge α) := h.edges.filter (·.kind != .unchanged)

/-- The node at a place; places below zero count from the end. -/
def nodeAt? (place : Int) : Option HistoryNode :=
  let place := if place < 0 then place + h.nodes.length else place
  if place < 0 then none else h.nodes[place.toNat]?

/-- The places of nodes at which branches end, in order. -/
def terminalPlaces : List Int :=
  ((h.terminations.map (·.node)).mergeSort fun a b => a ≤ b).eraseDups

/-- The nodes at which branches end. `none` if a termination is at no node. -/
def terminalNodes? : Option (List HistoryNode) := h.terminalPlaces.mapM h.nodeAt?

/-- The nodes at which the element first appeared. -/
def introducedAt? : Option (List HistoryNode) :=
  (h.terminations.filter (·.reason = .introduced)).mapM fun t => h.nodeAt? t.node

end History

namespace HistoryNode

/-- The order of time: the earlier commit first, and of two at one time the one found later. -/
def notAfter (a b : HistoryNode) : Bool :=
  match a.committedAt.compare b.committedAt with
  | .lt => true
  | .gt => false
  | .eq => b.index ≤ a.index

/-- All times are given with the distance to universal time, or none is. -/
def comparable (ns : List HistoryNode) : Bool :=
  match ns with
  | [] => true
  | n :: rest => rest.all fun m => n.committedAt.comparable m.committedAt

end HistoryNode

/-- The nodes of a history in the order of time, the oldest first. -/
def History.chronological {α : Type} (h : History α) : List HistoryNode :=
  h.nodes.mergeSort HistoryNode.notAfter

end Lineage
