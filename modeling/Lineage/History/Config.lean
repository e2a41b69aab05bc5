import Lineage.Input.Environment
import Lineage.Text.Upper

/-!
The settings of the history walk: its budgets, and whether moves between files are followed.
-/

namespace Lineage

/-- The settings of the walk. Without a number of commits or seconds there is no such limit. -/
structure HistoryConfig where
  maxCommits : Option Int := none
  maxSeconds : Option Float := none
  followMoves : Bool := true
  sourceSuffixes : List String := [".py"]
  logLevel : String := "INFO"

namespace HistoryConfig

open Input Reader

/-- Reads the settings of the walk; what is not given keeps its standard value. The log level is
turned into upper case. -/
def reader : Reader HistoryConfig := fun j =>
  mk <$> fieldOr "max_commits" (optional positive) none j
    <*> fieldOr "max_seconds" (optional duration) none j
    <*> fieldOr "follow_moves" bool true j
    <*> fieldOr "source_suffixes" (list text) [".py"] j
    <*> fieldOr "log_level" (fun j => (text j).map Text.upper) "INFO" j

/-- The settings that may be taken from the environment. -/
def settings : List Setting :=
  [⟨"max_commits", false⟩, ⟨"max_seconds", false⟩, ⟨"follow_moves", false⟩, ⟨"source_suffixes", true⟩,
    ⟨"log_level", false⟩]

/-- The settings of the walk, from given values and the environment. -/
def read (env : Environment) (given : List (String × Json)) :
    Except SettingsFault HistoryConfig :=
  env.read "CODETRAIL_" settings reader given

end HistoryConfig

end Lineage
