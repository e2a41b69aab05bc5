import Lineage.Input.Reader
import Lineage.Json.Parser

/-!
Settings from environment variables. A variable is named like its setting after a mark that all
settings of a group share; the case of its name does not count. Settings that are given directly
come first.
-/

namespace Lineage.Input

/-- A setting that may be taken from the environment. A structured one is written as a JSON text. -/
structure Setting where
  name : String
  structured : Bool := false

/-- The variable of a structured setting that cannot be read. -/
structure SettingFault where
  name : String
  deriving DecidableEq, Repr

/-- The message for a setting that cannot be read. -/
def SettingFault.message (f : SettingFault) : String :=
  "error parsing value for field \"" ++ f.name ++ "\" from source \"EnvSettingsSource\""

/-- Environment variables with their values. -/
abbrev Environment : Type := List (String × String)

namespace Environment

/-- A name without regard to case. -/
def fold (s : String) : String := String.ofList (s.toList.map Char.toLower)

/-- The value of a variable; of several that differ in case only, the last. -/
def get? (env : Environment) (name : String) : Option String :=
  (env.reverse.find? fun v => fold v.1 == fold name).map (·.2)

/-- The value of a setting, if there is a variable for it. A structured setting that is null counts
as missing. -/
def setting? (env : Environment) (mark : String) (s : Setting) :
    Except SettingFault (Option (String × Json)) :=
  match env.get? (mark ++ s.name) with
  | none => .ok none
  | some value =>
    if s.structured then
      match Json.parse? value with
      | none => .error ⟨s.name⟩
      | some .null => .ok none
      | some j => .ok (some (s.name, j))
    else .ok (some (s.name, .text value))

/-- The given settings, and after them those that only the environment has. -/
def complete (env : Environment) (mark : String) (settings : List Setting)
    (given : List (String × Json)) : Except SettingFault Json := do
  let found ← settings.mapM (env.setting? mark)
  let others := (found.filterMap id).filter fun f => !(given.any fun g => g.1 == f.1)
  return .object (given ++ others)

end Environment

/-- Why settings are refused: a variable cannot be read, or values are not valid. -/
inductive SettingsFault where
  | unreadable (fault : SettingFault)
  | values (complaints : List Complaint)

/-- Reads a group of settings from given values and the environment. -/
def Environment.read {α : Type} (env : Environment) (mark : String) (settings : List Setting)
    (r : Reader α) (given : List (String × Json)) : Except SettingsFault α :=
  match env.complete mark settings given with
  | .error f => .error (.unreadable f)
  | .ok j =>
    match r j with
    | .valid a => .ok a
    | .invalid cs => .error (.values cs)

end Lineage.Input
