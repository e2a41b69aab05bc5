/-!
What can be wrong with a given value, where it stands, and how it is reported: as a word for the
sort of problem and a message.
-/

namespace Lineage.Input

/-- What is wrong with a value. -/
inductive Problem where
  | missing
  | extra
  | notText
  | textTooShort
  | notInt
  | intText
  | intTextTooLong
  | intFraction
  | notFinite
  | notFloat
  | floatText
  | notBool
  | boolText
  | notList
  | notObject
  | notRecord (model : String)
  | notMoment
  | momentText (reason : String)
  | atLeast (bound : Nat)
  | atMost (bound : Nat)
  | above (bound : Nat)
  | noneOf (words : List String)
  | noMember (words : List String)
  | noTag (field : String)
  | wrongTag (tag field : String) (words : List String)
  | rule (text : String)
  deriving DecidableEq, Repr

/-- Words with quotes, the last two joined by `or`. -/
def choices (words : List String) : String :=
  let quoted := words.map fun w => "'" ++ w ++ "'"
  match quoted.reverse with
  | last :: front :: rest => ", ".intercalate (rest.reverse ++ [front]) ++ " or " ++ last
  | _ => ", ".intercalate quoted

namespace Problem

/-- The word for a sort of problem. -/
def word : Problem → String
  | missing => "missing"
  | extra => "extra_forbidden"
  | notText => "string_type"
  | textTooShort => "string_too_short"
  | notInt => "int_type"
  | intText => "int_parsing"
  | intTextTooLong => "int_parsing_size"
  | intFraction => "int_from_float"
  | notFinite => "finite_number"
  | notFloat => "float_type"
  | floatText => "float_parsing"
  | notBool => "bool_type"
  | boolText => "bool_parsing"
  | notList => "list_type"
  | notObject => "dict_type"
  | notRecord model => if model.isEmpty then "model_attributes_type" else "model_type"
  | notMoment => "datetime_type"
  | momentText _ => "datetime_from_date_parsing"
  | atLeast _ => "greater_than_equal"
  | atMost _ => "less_than_equal"
  | above _ => "greater_than"
  | noneOf _ => "literal_error"
  | noMember _ => "enum"
  | noTag _ => "union_tag_not_found"
  | wrongTag .. => "union_tag_invalid"
  | rule _ => "value_error"

/-- The message for a problem. -/
def message : Problem → String
  | missing => "Field required"
  | extra => "Extra inputs are not permitted"
  | notText => "Input should be a valid string"
  | textTooShort => "String should have at least 1 character"
  | notInt => "Input should be a valid integer"
  | intText => "Input should be a valid integer, unable to parse string as an integer"
  | intTextTooLong => "Unable to parse input string as an integer, exceeded maximum size"
  | intFraction => "Input should be a valid integer, got a number with a fractional part"
  | notFinite => "Input should be a finite number"
  | notFloat => "Input should be a valid number"
  | floatText => "Input should be a valid number, unable to parse string as a number"
  | notBool => "Input should be a valid boolean"
  | boolText => "Input should be a valid boolean, unable to interpret input"
  | notList => "Input should be a valid list"
  | notObject => "Input should be a valid dictionary"
  | notRecord model =>
    if model.isEmpty then "Input should be a valid dictionary or object to extract fields from"
    else "Input should be a valid dictionary or instance of " ++ model
  | notMoment => "Input should be a valid datetime"
  | momentText reason => "Input should be a valid datetime or date, " ++ reason
  | atLeast bound => "Input should be greater than or equal to " ++ toString bound
  | atMost bound => "Input should be less than or equal to " ++ toString bound
  | above bound => "Input should be greater than " ++ toString bound
  | noneOf words | noMember words => "Input should be " ++ choices words
  | noTag field => "Unable to extract tag using discriminator '" ++ field ++ "'"
  | wrongTag tag field words =>
    "Input tag '" ++ tag ++ "' found using '" ++ field ++ "' does not match any of the expected tags: "
      ++ ", ".intercalate (words.map fun w => "'" ++ w ++ "'")
  | rule text => "Value error, " ++ text

end Problem

/-- A step on the way to a value: a field or a place in a list. -/
inductive Place where
  | field (name : String)
  | item (index : Nat)
  deriving DecidableEq, Repr

/-- A problem with the value at the end of a path. -/
structure Complaint where
  path : List Place
  problem : Problem
  deriving DecidableEq, Repr

namespace Complaint

/-- The same complaint about a value further out. -/
def under (place : Place) (c : Complaint) : Complaint := { c with path := place :: c.path }

end Complaint

/-- A checked value, or all complaints about it in order. -/
inductive Checked (α : Type) where
  | valid (value : α)
  | invalid (complaints : List Complaint)

namespace Checked

variable {α β : Type}

/-- A value that is refused. -/
def refuse (p : Problem) : Checked α := invalid [⟨[], p⟩]

/-- Changes the value. -/
def map (f : α → β) : Checked α → Checked β
  | valid a => valid (f a)
  | invalid cs => invalid cs

/-- Two checks side by side: the complaints of both are kept. -/
def apply (f : Checked (α → β)) (a : Unit → Checked α) : Checked β :=
  match f, a () with
  | valid f, valid a => valid (f a)
  | valid _, invalid cs => invalid cs
  | invalid cs, valid _ => invalid cs
  | invalid cs, invalid ds => invalid (cs ++ ds)

instance : Applicative Checked where
  pure := valid
  seq := apply

/-- A check of a value that has passed another one. -/
def andThen (a : Checked α) (f : α → Checked β) : Checked β :=
  match a with
  | valid a => f a
  | invalid cs => invalid cs

/-- Complaints about a part are complaints about the whole at that place. -/
def under (place : Place) : Checked α → Checked α
  | valid a => valid a
  | invalid cs => invalid (cs.map (·.under place))

/-- The value, or the complaints. -/
def toExcept : Checked α → Except (List Complaint) α
  | valid a => .ok a
  | invalid cs => .error cs

end Checked

end Lineage.Input
