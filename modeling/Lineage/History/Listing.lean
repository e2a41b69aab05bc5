import Lineage.Console.Markup
import Lineage.Console.Table
import Lineage.History.Basic

/-!
A history as it is listed for people: a table with one row for each change and each introduction, the
newest first, between what was asked for and what the run came to.
-/

namespace Lineage

/-- A row of a listing: a version, what changed with it, and the score in words. -/
structure ListingRow where
  node : HistoryNode
  change : String
  score : String
  deriving DecidableEq, Repr

/-- Why a history cannot be listed: an edge or a termination is at no node, times with and without a
known distance to universal time are mixed, or a text has a bad style tag. -/
inductive ListingFault where
  | noNode
  | mixedTimes
  | markup (fault : Console.MarkupFault)
  deriving DecidableEq, Repr

/-- The message for a history that cannot be listed. -/
def ListingFault.message : ListingFault → String
  | noNode => "list index out of range"
  | mixedTimes => "can't compare offset-naive and offset-aware datetimes"
  | markup fault => fault.message

namespace History

variable {α : Type} (h : History α)

/-- The rows of changes and introductions as they come. -/
def unsortedRows? (score : α → String) : Option (List ListingRow) := do
  let changed ← h.changes.mapM fun e => (h.nodeAt? e.source).map fun n => ⟨n, e.kind.text, score e.score⟩
  let introduced ← h.introducedAt?
  return changed ++ introduced.map fun n => ⟨n, TerminationReason.introduced.text, ""⟩

/-- The rows of the listing, the newest first. -/
def rows (score : α → String) : Except ListingFault (List ListingRow) :=
  match h.unsortedRows? score with
  | none => .error .noNode
  | some rs =>
    if HistoryNode.comparable (rs.map (·.node)) then
      .ok (rs.mergeSort fun a b => HistoryNode.notAfter b.node a.node)
    else .error .mixedTimes

/-- The columns of the listing. -/
def columns : List Console.Column :=
  [⟨"Commit", .left, 10⟩, ⟨"Date", .left, 0⟩, ⟨"Author", .left, 0⟩, ⟨"Change", .left, 0⟩,
    ⟨"Element", .left, 0⟩, ⟨"Path", .left, 0⟩, ⟨"Lines", .right, 0⟩, ⟨"Score", .right, 0⟩]

/-- The cells of a row. Of a commit seven characters are shown, of an author twenty. -/
def cells (r : ListingRow) : List String :=
  let start (k : Nat) (s : String) : String := String.ofList (s.toList.take k)
  [start 7 r.node.commitId, r.node.committedAt.brief, start 20 r.node.authorName, r.change,
    r.node.qualifiedName, r.node.path, r.node.lines.text, r.score]

/-- Plain lines of a marked-up text. -/
def plainLines (markup : String) : Except ListingFault (List String) :=
  ((Console.plain markup).map fun s => s.splitOn "\n").mapError .markup

/-- What stands above the table. -/
def heading (seed : HistoryNode) : String :=
  "\n[bold]History of " ++ seed.kind.text ++ "[/bold] [cyan]" ++ seed.qualifiedName ++ "[/cyan]"

/-- Where the element is. -/
def place (seed : HistoryNode) : String :=
  "[cyan]File:[/cyan] " ++ seed.path ++ "  [cyan]Lines:[/cyan] " ++ seed.lines.text ++ "\n"

/-- The counts under the table. -/
def summary : String :=
  "\n[dim]" ++ toString h.nodes.length ++ " versions, " ++ toString h.changes.length ++ " changes, "
    ++ toString h.report.commitsAnalysed ++ " commits analysed, " ++ toString h.report.cacheHits
    ++ " cache hits / " ++ toString h.report.cacheMisses ++ " misses[/dim]"

/-- A branch that ended early, if it did. -/
def earlyEnd (t : Termination) : Except ListingFault (List String) :=
  if t.reason = .introduced ∨ t.reason = .extracted then .ok []
  else
    match h.nodeAt? t.node with
    | none => .error .noNode
    | some n =>
      let detail := match t.detail with
        | some d => if d.isEmpty then "" else ": " ++ d
        | none => ""
      plainLines ("[yellow]Branch stopped at " ++ String.ofList (n.commitId.toList.take 7) ++ " ("
        ++ t.reason.text ++ ")" ++ detail ++ "[/yellow]")

/-- The lines of the listing. -/
def listing (score : α → String) : Except ListingFault (List String) := do
  let some seed := h.nodes.head? | throw .noNode
  let head ← plainLines (heading seed)
  let place ← plainLines (place seed)
  let rows ← (← h.rows score).mapM fun r =>
    (cells r).mapM fun s => (Console.plain s).mapError .markup
  let summary ← plainLines h.summary
  let ends ← h.terminations.mapM h.earlyEnd
  let budget := if h.budgetExceeded then ["Budget exceeded, history is incomplete"] else []
  return head ++ place ++ (Console.Table.mk columns rows).lines ++ summary ++ ends.flatten ++ budget

end History

end Lineage
