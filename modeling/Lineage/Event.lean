import Lineage.Json.Basic

/-!
Events: what happens during a run, told to a log. An event has a level, a name and named values.
-/

namespace Lineage

/-- How much an event matters. -/
inductive Level where
  | debug
  | info
  | warning
  | error
  | critical
  deriving DecidableEq, Repr, Inhabited

namespace Level

/-- The word for a level. -/
def text : Level → String
  | debug => "debug"
  | info => "info"
  | warning => "warning"
  | error => "error"
  | critical => "critical"

/-- The place of a level among all, least important first. -/
def rank : Level → Nat
  | debug => 10
  | info => 20
  | warning => 30
  | error => 40
  | critical => 50

end Level

/-- Something that happened. -/
structure Event where
  level : Level
  name : String
  fields : List (String × Json)

end Lineage
