import Lineage.History.Basic
import Lineage.Time.Reading

/-!
Saved histories: a history as a loosely typed value, and a history read from one.
-/

namespace Lineage

open Input Reader

/-! ### Writing -/

namespace HistoryNode

/-- A node as a value. -/
def toJson (n : HistoryNode) : Json := .object
  [("index", .int n.index), ("commit_id", .text n.commitId), ("author_name", .text n.authorName),
    ("authored_at", .text n.authoredAt.iso), ("committed_at", .text n.committedAt.iso),
    ("file_path", .text n.path), ("kind", .text n.kind.text),
    ("qualified_name", .text n.qualifiedName), ("signature", .text n.signature),
    ("start_line", .int n.lines.first), ("end_line", .int n.lines.last)]

end HistoryNode

namespace ChangeEdge

variable {α : Type}

/-- An edge as a value; `score` writes its score. -/
def toJson (score : α → Json) (e : ChangeEdge α) : Json := .object
  [("source", .int e.source), ("target", .int e.target), ("kind", .text e.kind.text),
    ("score", score e.score), ("commit_id", .text e.commitId)]

end ChangeEdge

namespace Termination

/-- A termination as a value. -/
def toJson (t : Termination) : Json := .object
  [("node", .int t.node), ("reason", .text t.reason.text), ("commit_id", .ofText? t.commitId),
    ("detail", .ofText? t.detail)]

end Termination

namespace Report

/-- A report as a value. -/
def toJson (r : Report) : Json := .object
  [("commits_analysed", .int r.commitsAnalysed), ("walker_calls", .int r.walkerCalls),
    ("models_built", .int r.modelsBuilt), ("cache_hits", .int r.cacheHits),
    ("cache_misses", .int r.cacheMisses),
    ("locator_tiers", .object (r.tiers.map fun t => (t.1, .int t.2))),
    ("processing", .list (r.processing.map fun p =>
      .object [("commit_id", .text p.1), ("file_path", .text p.2)]))]

end Report

/-- A history as a value; `score` writes a score. -/
def History.toJson {α : Type} (score : α → Json) (h : History α) : Json := .object
  [("element_kind", .text h.kind.text), ("nodes", .list (h.nodes.map HistoryNode.toJson)),
    ("edges", .list (h.edges.map (ChangeEdge.toJson score))),
    ("terminations", .list (h.terminations.map Termination.toJson)),
    ("budget_exceeded", .bool h.budgetExceeded), ("report", h.report.toJson)]

/-! ### Reading -/

/-- Reads a kind of element. -/
def ElementKind.reader : Reader ElementKind := member (ElementKind.all.map fun k => (k.text, k))

/-- Reads a kind of change. -/
def ChangeKind.reader : Reader ChangeKind := member (ChangeKind.all.map fun k => (k.text, k))

/-- Reads a reason. -/
def TerminationReason.reader : Reader TerminationReason :=
  member (TerminationReason.all.map fun r => (r.text, r))

/-- Reads a node. -/
def HistoryNode.reader : Reader HistoryNode :=
  record "HistoryNode" fun j =>
    let make (index : Int) (commitId authorName : String) (authoredAt committedAt : Time.Moment)
        (path : String) (kind : ElementKind) (qualifiedName signature : String) (first last : Int) :
        HistoryNode :=
      ⟨index, commitId, authorName, authoredAt, committedAt, path, kind, qualifiedName, signature,
        ⟨first, last⟩⟩
    make <$> field "index" int j
      <*> field "commit_id" text j
      <*> field "author_name" text j
      <*> field "authored_at" Time.reader j
      <*> field "committed_at" Time.reader j
      <*> field "file_path" text j
      <*> field "kind" ElementKind.reader j
      <*> field "qualified_name" text j
      <*> fieldOr "signature" text "" j
      <*> field "start_line" int j
      <*> field "end_line" int j

/-- Reads a score. -/
def scoreReader : Reader Float := share

/-- Reads an edge. -/
def ChangeEdge.reader : Reader (ChangeEdge Float) :=
  record "ChangeEdge" fun j =>
    ChangeEdge.mk <$> field "source" int j
      <*> field "target" int j
      <*> field "kind" ChangeKind.reader j
      <*> field "score" scoreReader j
      <*> field "commit_id" text j

/-- Reads a termination. -/
def Termination.reader : Reader Termination :=
  record "Termination" fun j =>
    Termination.mk <$> field "node" int j
      <*> field "reason" TerminationReason.reader j
      <*> fieldOr "commit_id" (optional text) none j
      <*> fieldOr "detail" (optional text) none j

/-- Reads what a report says about one version; how long it took is checked and dropped. -/
def Report.versionReader : Reader (String × String) :=
  record "ProcessingInfo" fun j =>
    (fun c p _ => (c, p)) <$> field "commit_id" text j
      <*> field "file_path" text j
      <*> field "elapsed_ms" float j

/-- Reads a report. -/
def Report.reader : Reader Report :=
  record "HistoryReport" fun j =>
    Report.mk <$> fieldOr "commits_analysed" int 0 j
      <*> fieldOr "walker_calls" int 0 j
      <*> fieldOr "models_built" int 0 j
      <*> fieldOr "cache_hits" int 0 j
      <*> fieldOr "cache_misses" int 0 j
      <*> fieldOr "locator_tiers" (table int) [] j
      <*> fieldOr "processing" (list Report.versionReader) [] j

/-- Reads a history. -/
def History.reader : Reader (History Float) :=
  record "History" fun j =>
    History.mk <$> field "element_kind" ElementKind.reader j
      <*> fieldOr "nodes" (list HistoryNode.reader) [] j
      <*> fieldOr "edges" (list ChangeEdge.reader) [] j
      <*> fieldOr "terminations" (list Termination.reader) [] j
      <*> fieldOr "budget_exceeded" bool false j
      <*> fieldOr "report" Report.reader {} j

end Lineage
