import Lineage.Source.Elements
import Lineage.Source.Parse
import Lineage.Text.Utf8

/-!
The model of a source file: decoding, parsing, growing the tree and collecting the elements.
-/

namespace Lineage

/-- A file that cannot be parsed: the reason, and the line where it was found if there is one. -/
structure ParseFault where
  path : String
  reason : String
  line : Option Nat
  deriving DecidableEq, Repr

namespace ParseFault

/-- The path, with the line after a colon. -/
def place (f : ParseFault) : String :=
  match f.line with
  | some (n + 1) => f.path ++ ":" ++ toString (n + 1)
  | _ => f.path

/-- The message of a fault. -/
def message (f : ParseFault) : String := "Cannot parse " ++ f.place ++ ": " ++ f.reason

end ParseFault

/-- Why a file has no model: it cannot be parsed, or a text that the model needs cannot be written. -/
inductive ModelFault where
  | parse (fault : ParseFault)
  | backslash
  | hugeInteger
  deriving DecidableEq, Repr

/-- The message of a fault. -/
def ModelFault.message : ModelFault → String
  | parse fault => fault.message
  | backslash => "Unable to avoid backslash in f-string expression part"
  | hugeInteger => "Exceeds the limit (4300 digits) for integer string conversion; " ++
      "use sys.set_int_max_str_digits() to increase the limit"

namespace Source

/-- What is said about a file that nests too deeply. -/
def tooDeep : String := "too deeply nested (RecursionError)"

/-- The deepest tree that is built. -/
def maxHeight : Nat := 2950

/-- A constant that is a whole number with more digits than are ever written. -/
def isHugeInteger (label value : String) : Bool :=
  label == "Constant" && Grammar.maxDigits < value.length && value.toList.all Number.isDigit

/-- The model of parsed statements. -/
def modelOf (path : String) (body : List Stmt) : Except ModelFault Model :=
  let outline := fileOutline body
  let fault (reason : String) : Except ModelFault Model := .error (.parse ⟨path, reason, none⟩)
  if maxHeight < outline.height then fault tooDeep
  else if outline.any isHugeInteger then .error .hugeInteger
  else
    match outline.tree? 1 with
    | none => fault tooDeep
    | some tree =>
      match elements body tree with
      | .ok elements => .ok ⟨path, elements, tree⟩
      | .error .tooDeep => fault tooDeep
      | .error .backslash => .error .backslash

end Source

/-- The model of the bytes of a file. `named?` looks up the names of characters in escapes. -/
def Model.ofBytes (named? : List Char → Option Nat) (bytes : List UInt8) (path : String) :
    Except ModelFault Model :=
  let fault (reason : String) (line : Option Nat) : Except ModelFault Model :=
    .error (.parse ⟨path, reason, line⟩)
  match Text.Utf8.decode bytes with
  | .error f => fault ("not valid UTF-8 (" ++ f.message ++ ")") none
  | .ok text =>
    if text.contains '\x00' then fault "source code string cannot contain null bytes" none
    else
      match Source.parse named? text with
      | .error f => fault f.message (some f.line)
      | .ok body => Source.modelOf path body

end Lineage
