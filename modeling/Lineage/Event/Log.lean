import Lineage.Event
import Lineage.Json.Printer
import Lineage.Text.Upper

/-!
Logs: events as lines, from a least level on, either as values on one line each or laid out for
people.
-/

namespace Lineage

namespace Level

/-- The level that a name stands for, without regard to case. Names that are not known stand for
`info`. -/
def ofName (name : String) : Level :=
  let known : List (String × Level) :=
    [("DEBUG", debug), ("INFO", info), ("WARN", warning), ("WARNING", warning), ("ERROR", error)]
  (known.lookup (Text.upper name)).getD info

end Level

namespace Event

/-- A text filled up with blanks on the right. -/
def padded (width : Nat) (s : String) : String :=
  s ++ String.ofList (List.replicate (width - s.length) ' ')

/-- A character that makes quotes necessary. -/
def needsQuotes (c : Char) : Bool := [' ', '\t', '=', '\r', '\n', '"', '\''].contains c

/-- A value as it is shown to people. -/
def shown : Json → String
  | .text s => if s.toList.any needsQuotes then Json.quoted s else s
  | j => j.inner

/-- The values of an event as they are shown to people, in the order of their names. -/
def shownFields (e : Event) : List String :=
  (e.fields.mergeSort fun a b => a.1 ≤ b.1).map fun f => f.1 ++ "=" ++ shown f.2

/-- An event laid out for people: level, name and values. -/
def line (e : Event) : String :=
  let parts := ("[" ++ padded 9 e.level.text ++ "]") :: padded 30 e.name :: e.shownFields
  String.ofList ((" ".intercalate parts).toList.reverse.dropWhile (· == ' ')).reverse

/-- An event as a value. -/
def toJson (e : Event) : Json :=
  .object (e.fields ++ [("event", .text e.name), ("level", .text e.level.text)])

end Event

/-- A log: the least level of its events, and whether they are written as values. -/
structure Log where
  least : Level := .info
  asValues : Bool := false
  deriving DecidableEq, Repr

namespace Log

/-- The events that a log keeps. -/
def kept (l : Log) (es : List Event) : List Event := es.filter fun e => l.least.rank ≤ e.level.rank

/-- The lines of a log. -/
def lines (l : Log) (es : List Event) : List String :=
  (l.kept es).map fun e => if l.asValues then e.toJson.line else e.line

end Log

end Lineage
