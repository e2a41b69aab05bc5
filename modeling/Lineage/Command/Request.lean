import Lineage.Command.Form
import Lineage.History.Tracker

/-!
What can be asked for on the command line: the history of an element of each kind, or the version of
the program.
-/

namespace Lineage.Command

/-- A history that is asked for. -/
structure TrackRequest where
  kind : ElementKind
  repository : String
  path : String
  locator : List (String × Json)
  commit : String
  output : Option String
  maxCommits : Json
  maxSeconds : Json
  threshold : Option Json
  followMoves : Bool
  verbose : Bool

/-- What is asked for. -/
inductive Request where
  | help
  | version
  | track (request : TrackRequest)

/-- The options that all histories have in common. -/
def commonChoices : List Choice :=
  [⟨["--commit", "-c"], "commit", .takes .text⟩, ⟨["--output", "-o"], "output", .takes .text⟩,
    ⟨["--max-commits", "-n"], "max_commits", .takes .whole⟩,
    ⟨["--max-seconds"], "max_seconds", .takes .number⟩,
    ⟨["--threshold", "-t"], "threshold", .takes .number⟩,
    ⟨["--follow-moves"], "follow_moves", .sets true⟩,
    ⟨["--no-follow-moves"], "follow_moves", .sets false⟩,
    ⟨["--verbose", "-v"], "verbose", .sets true⟩]

/-- The operands that say which element of a kind is meant. -/
def elementOperands : ElementKind → List Operand
  | .classDecl => [⟨"class_name", .text⟩]
  | .methodDecl => [⟨"method_name", .text⟩, ⟨"method_line", .whole⟩]
  | .attributeDecl => [⟨"attribute_name", .text⟩, ⟨"attribute_line", .whole⟩]
  | .variableDecl => [⟨"variable_name", .text⟩, ⟨"variable_line", .whole⟩]
  | .blockStmt =>
    [⟨"method_name", .text⟩, ⟨"method_line", .whole⟩, ⟨"block_type", .text⟩, ⟨"start_line", .whole⟩,
      ⟨"end_line", .whole⟩]

/-- The options that say more about which element of a kind is meant. -/
def elementChoices : ElementKind → List Choice
  | .classDecl => [⟨["--line", "-l"], "line", .takes .whole⟩]
  | .variableDecl =>
    [⟨["--method", "-m"], "method_name", .takes .text⟩,
      ⟨["--method-line"], "method_line", .takes .whole⟩]
  | _ => []

/-- What the command for a kind of element takes. -/
def trackForm (kind : ElementKind) : Form :=
  ⟨⟨"repo_path", .text⟩ :: ⟨"file_path", .text⟩ :: elementOperands kind,
    elementChoices kind ++ commonChoices⟩

/-- The history that given values ask for. -/
def TrackRequest.ofValues (kind : ElementKind) (vs : Form.Values) : TrackRequest :=
  let text? (name : String) : Option String := match vs.lookup name with
    | some (.text s) => some s
    | _ => none
  let truth (name : String) (standard : Bool) : Bool := match vs.lookup name with
    | some (.bool b) => b
    | _ => standard
  { kind
    repository := (text? "repo_path").getD ""
    path := (text? "file_path").getD ""
    locator := vs.filter fun v => kind.locatorFields.contains v.1
    commit := (text? "commit").getD "HEAD"
    output := text? "output"
    maxCommits := (vs.lookup "max_commits").getD .null
    maxSeconds := (vs.lookup "max_seconds").getD .null
    threshold := vs.lookup "threshold"
    followMoves := truth "follow_moves" true
    verbose := truth "verbose" false }

/-- Reads a command line. The first word names what is asked for. -/
def Request.read? (words : List String) : Option Request :=
  match if words.head? == some "--" then words.drop 1 else words with
  | [] => none
  | name :: rest =>
    if name == "--help" then some .help
    else if name == "version" then
      (Form.read? ⟨[], []⟩ rest).map fun
        | .help => .help
        | .values _ => .version
    else
      (ElementKind.ofText? name).bind fun kind =>
        ((trackForm kind).read? rest).map fun
          | .help => .help
          | .values vs => .track (.ofValues kind vs)

end Lineage.Command
