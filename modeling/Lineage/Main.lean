import Lineage.Command.Run
import Lineage.History.Bound
import Lineage.Json.Parser
import Lineage.Repository.Git
import Lineage.Repository.Stored
import Lineage.Text.Name

/-!
The program: tells the history of an element of a commit graph that is stored in a file. Histories are
printed, or saved where the command line says; the events of the run go to standard error.
-/

namespace Lineage.Program

/-- The commit graph in a text, if it holds one. -/
def archive? (contents : String) : Option Archive :=
  match (Json.parse? contents).map (Archive.reader fun _ => contentReader) with
  | some (.valid a) => some a
  | _ => none

/-- A stored commit graph as an opened repository. -/
def opened (a : Archive) : Command.Opened Unit :=
  ⟨a.objectStore.repository, (), Model.ofBytes Text.named?, a.stepBound 0⟩

/-- The settings that environment variables may give. -/
def environmentNames : List String :=
  ((HistoryConfig.settings.map fun s => "CODETRAIL_" ++ s.name)
    ++ MatchingConfig.settings.map fun s => "CODETRAIL_MATCH_" ++ s.name).map Text.upper

/-- The environment variables that are set. -/
def environment : IO Input.Environment :=
  environmentNames.filterMapM fun name => do return (← IO.getEnv name).map fun v => (name, v)

/-- The places that a command line may name: the file of a graph, if it can be read. -/
def host (words : List String) : IO (Command.Host Unit) := do
  let environment ← environment
  let found ← match Command.Request.read? words with
    | some (.track r) =>
      let path := normalPath r.repository
      try
        let contents ← IO.FS.readFile path
        pure [(path, archive? contents)]
      catch _ => pure []
    | _ => pure []
  return {
    places := ⟨fun p => (found.lookup p).isSome, fun p => ((found.lookup p).bind id).map opened⟩
    environment
    isDirectory := [".", "..", "/"].contains
    seconds := Float.ofNat 0 }

end Lineage.Program

/-- Runs a command line. -/
def main (words : List String) : IO UInt32 := do
  let o := Lineage.Command.run (← Lineage.Program.host words) words
  let out ← IO.getStdout
  let log ← IO.getStderr
  for line in o.log.lines o.events do log.putStrLn line
  for line in o.lines do out.putStrLn line
  if o.code == Lineage.Command.misused then
    for line in Lineage.Command.usage do log.putStrLn line
  for (path, value) in o.saved do IO.FS.writeFile path value.pretty
  return UInt32.ofNat o.code
