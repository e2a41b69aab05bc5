import Lineage.Decimal.Shortest
import Lineage.Text.Quoted

/-!
Loosely typed values: settings, requests, events and saved histories are given and written as such.
-/

namespace Lineage

/-- A loosely typed value. The fields of an object are in the order in which they are written. -/
inductive Json where
  | null
  | bool (b : Bool)
  | int (n : Int)
  | float (x : Float)
  | text (s : String)
  | list (items : List Json)
  | object (fields : List (String × Json))

namespace Json

instance : Inhabited Json := ⟨null⟩

/-- The value of a field of an object. -/
def get? (name : String) : Json → Option Json
  | object fields => fields.lookup name
  | _ => none

/-- A text, or nothing. -/
def ofText? : Option String → Json
  | some s => text s
  | none => null

/-- A count. -/
def nat (n : Nat) : Json := int n

/-- Numbers are written as shortly as possible, with a point. -/
def floatStyle : Decimal.ShortestStyle := ⟨-4, 15, true⟩

/-! ### The text of a value in a message -/

/-- A text in quotes. -/
def quoted (s : String) : String :=
  String.ofList (Text.Quoted.text (s.toList.map (·.toNat)))

mutual

/-- The text of a value inside a message: texts stand in quotes. -/
def inner : Json → String
  | null => "None"
  | bool b => if b then "True" else "False"
  | int n => toString n
  | float x => floatStyle.text x
  | text s => quoted s
  | list items => "[" ++ ", ".intercalate (inners items) ++ "]"
  | object fields => "\x7b" ++ ", ".intercalate (innerFields fields) ++ "\x7d"

/-- The texts of the items of a list. -/
def inners : List Json → List String
  | [] => []
  | j :: js => j.inner :: inners js

/-- The texts of the fields of an object. -/
def innerFields : List (String × Json) → List String
  | [] => []
  | (k, j) :: rest => (quoted k ++ ": " ++ j.inner) :: innerFields rest

end

/-- The text of a value that stands alone: a text without quotes. -/
def plain : Json → String
  | text s => s
  | j => j.inner

end Json

end Lineage
