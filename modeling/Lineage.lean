import Lineage.Command.Form
import Lineage.Command.Request
import Lineage.Command.Run
import Lineage.Console.Markup
import Lineage.Console.Table
import Lineage.Decimal.Binary
import Lineage.Decimal.Fixed
import Lineage.Decimal.Scientific
import Lineage.Decimal.Shortest
import Lineage.Digest.Blake2b
import Lineage.Element.Basic
import Lineage.Element.LineRange
import Lineage.Element.Locator
import Lineage.Element.Model
import Lineage.Event
import Lineage.Event.Log
import Lineage.History.Basic
import Lineage.History.Bound
import Lineage.History.Cache
import Lineage.History.Config
import Lineage.History.Listing
import Lineage.History.Match
import Lineage.History.Run
import Lineage.History.Saved
import Lineage.History.Tracker
import Lineage.History.Walk
import Lineage.Input.Complaint
import Lineage.Input.Environment
import Lineage.Input.Number
import Lineage.Input.Reader
import Lineage.Json.Basic
import Lineage.Json.Parser
import Lineage.Json.Printer
import Lineage.Main
import Lineage.Matching.Candidates
import Lineage.Matching.Change
import Lineage.Matching.Config
import Lineage.Matching.Scoring
import Lineage.Matching.Settings
import Lineage.Repository.Access
import Lineage.Repository.Archive
import Lineage.Repository.Git
import Lineage.Repository.Location
import Lineage.Repository.Memory
import Lineage.Repository.Stored
import Lineage.Score
import Lineage.Sequence.Blocks
import Lineage.Sequence.Distance
import Lineage.Sequence.Total
import Lineage.Source.Declaration
import Lineage.Source.Elements
import Lineage.Source.Escape
import Lineage.Source.Grammar.Argument
import Lineage.Source.Grammar.Basic
import Lineage.Source.Grammar.Constant
import Lineage.Source.Grammar.Describe
import Lineage.Source.Grammar.Display
import Lineage.Source.Grammar.Expression
import Lineage.Source.Grammar.Parameter
import Lineage.Source.Grammar.Pattern
import Lineage.Source.Grammar.Statement
import Lineage.Source.Grammar.Target
import Lineage.Source.Lexer
import Lineage.Source.Literal
import Lineage.Source.Model
import Lineage.Source.Number
import Lineage.Source.Outline
import Lineage.Source.Parse
import Lineage.Source.Printer
import Lineage.Source.Syntax
import Lineage.Source.Token
import Lineage.Text.Base64
import Lineage.Text.CodeRanges
import Lineage.Text.Identifier
import Lineage.Text.Name
import Lineage.Text.NameTable
import Lineage.Text.Normal
import Lineage.Text.NormalTable
import Lineage.Text.Printable
import Lineage.Text.Quoted
import Lineage.Text.Upper
import Lineage.Text.Utf8
import Lineage.Text.Width
import Lineage.Time.Calendar
import Lineage.Time.Moment
import Lineage.Time.Reading
import Lineage.Tree.Arena
import Lineage.Tree.Basic
import Lineage.Tree.Mapping
import Lineage.Tree.Matching
import Lineage.Tree.Outline
import Lineage.Tree.Traversal
import Lineage.Proofs.History.Actions
import Lineage.Proofs.History.Turns
import Lineage.Proofs.History.Replay
import Lineage.Proofs.History.Versions
import Lineage.Proofs.History.Branches
import Lineage.Proofs.History.Walks
import Lineage.Proofs.History.Introduction
import Lineage.Proofs.History.Join
import Lineage.Proofs.History.Extraction
import Lineage.Proofs.History.Endings
import Lineage.Proofs.History.Ancestry
import Lineage.Proofs.History.Steady
import Lineage.Proofs.History.Successors
import Lineage.Proofs.History.Seed
import Lineage.Proofs.History.Reachable
import Lineage.Proofs.History.Threshold
import Lineage.Proofs.History.Alike
import Lineage.Proofs.History.Shared
import Lineage.Proofs.History.Budget
import Lineage.Proofs.History.Accounts
import Lineage.Proofs.History.Finite
import Lineage.Proofs.History.Faults
import Lineage.Proofs.History.Isolation
import Lineage.Proofs.Repository.Fixed
import Lineage.Proofs.Score
import Lineage.Proofs.Tree.Digest
import Lineage.Proofs.Tree.Growth
import Lineage.Proofs.Source.Ast
import Lineage.Proofs.Source.Fields
import Lineage.Proofs.Source.Standing
import Lineage.Proofs.Source.Shadowed
import Lineage.Proofs.Source.Requests
import Lineage.Proofs.Source.Written
import Lineage.Proofs.Source.Faults
import Lineage.Proofs.Matching.Chosen
import Lineage.Proofs.Matching.Threshold
import Lineage.Proofs.Matching.Unchanged
import Lineage.Proofs.Element.Naming
import Lineage.Proofs.Element.Located
import Lineage.Proofs.Tree.Walks
import Lineage.Proofs.Tree.Identical
import Lineage.Proofs.Sequence.Distance
import Lineage.Proofs.Sequence.Edits
import Lineage.Proofs.Matching.Exact
import Lineage.Proofs.Matching.Unedited
import Lineage.Proofs.Matching.Mean
import Lineage.Proofs.Matching.ExactCopy
import Lineage.Proofs.History.WellFormed
import Lineage.Proofs.History.Seen
import Lineage.Proofs.History.Progress
import Lineage.Proofs.Tree.Anchors
import Lineage.Proofs.Tree.Pairing
import Lineage.Proofs.Repository.Line
import Lineage.Proofs.History.Line
import Lineage.Proofs.Sequence.Pieces
import Lineage.Proofs.History.Counting
import Lineage.Proofs.History.Overlooked
import Lineage.Proofs.Score.Double
import Lineage.Proofs.Tree.Positions
import Lineage.Proofs.Tree.Unique
import Lineage.Proofs.Matching.Label
import Lineage.Proofs.Matching.Tiers
import Lineage.Proofs.Matching.WholeFile
import Lineage.Proofs.History.Skipping
import Lineage.Proofs.Sequence.Runs
import Lineage.Proofs.Sequence.Common
import Lineage.Proofs.Sequence.Blocks
import Lineage.Proofs.Sequence.Ordered
import Lineage.Proofs.Source.Parameters
import Lineage.Proofs.Tree.Conversion
import Lineage.Proofs.Tree.Objects
import Lineage.Proofs.Source.Positions
import Lineage.Proofs.Element.Formed
import Lineage.Proofs.Source.Collected
import Lineage.Proofs.Matching.Elsewhere
import Lineage.Proofs.History.Moves
import Lineage.Proofs.History.Chronology
import Lineage.Proofs.History.Balance
import Lineage.Proofs.History.Bookkeeping
import Lineage.Proofs.History.Unsupported
import Lineage.Proofs.History.Report
import Lineage.Proofs.Matching.Choice
import Lineage.Proofs.Text.Points
import Lineage.Proofs.Tree.Spelled
import Lineage.Proofs.Tree.Identity
import Lineage.Proofs.Tree.Visits
