import Lineage.Input.Complaint
import Lineage.Json.Basic
import Lineage.Input.Number

/-!
Readers check a given value and turn it into a typed one. They are lenient: numbers and truth values
may be given as text, whole numbers as numbers without a fraction, truth values as one or zero.
-/

namespace Lineage.Input

open Checked (refuse)

/-- A way to check a given value. -/
abbrev Reader (α : Type) : Type := Json → Checked α

namespace Reader

variable {α β : Type}

/-- Reads a text. -/
def text : Reader String
  | .text s => .valid s
  | _ => refuse .notText

/-- Reads a text that is not empty. -/
def someText : Reader String := fun g =>
  (text g).andThen fun s => if s.isEmpty then refuse .textTooShort else .valid s

/-- The whole number that a number without a fraction equals. -/
def wholeOf (x : Float) : Checked Int :=
  match Decimal.read x with
  | .finite negative m e =>
    let (num, den) := Decimal.quotient m e
    if num % den = 0 then
      let n : Int := (num / den : Nat)
      .valid (if negative then -n else n)
    else refuse .intFraction
  | _ => refuse .notFinite

/-- Reads a whole number. -/
def int : Reader Int
  | .int n => .valid n
  | .bool b => .valid (if b then 1 else 0)
  | .float x => wholeOf x
  | .text s =>
    match Number.int s with
    | .ok n => .valid n
    | .error .malformed => refuse .intText
    | .error .tooLong => refuse .intTextTooLong
  | _ => refuse .notInt

/-- Reads a whole number that is at least one. -/
def positive : Reader Int := fun g =>
  (int g).andThen fun n => if n < 1 then refuse (.atLeast 1) else .valid n

/-- Reads a number. -/
def float : Reader Float
  | .int n => .valid (Float.ofInt n)
  | .bool b => .valid (if b then Float.ofNat 1 else Float.ofNat 0)
  | .float x => .valid x
  | .text s =>
    match Number.float? s with
    | some x => .valid x
    | none => refuse .floatText
  | _ => refuse .notFloat

/-- Reads a number that is not negative. What is no number at all counts as too small. -/
def weight : Reader Float := fun g =>
  (float g).andThen fun x => if Float.ofNat 0 ≤ x then .valid x else refuse (.atLeast 0)

/-- A number that is at most one. What is no number at all counts as too large. -/
def atMostOne (x : Float) : Checked Float :=
  if x ≤ Float.ofNat 1 then .valid x else refuse (.atMost 1)

/-- Reads a number from zero to one. -/
def share : Reader Float := fun g =>
  ((float g).andThen atMostOne).andThen fun x => if Float.ofNat 0 ≤ x then .valid x else refuse (.atLeast 0)

/-- A number above zero. -/
def aboveZero (x : Float) : Checked Float :=
  if Float.ofNat 0 < x then .valid x else refuse (.above 0)

/-- Reads a number above zero and at most one. -/
def positiveShare : Reader Float := fun g => ((float g).andThen atMostOne).andThen aboveZero

/-- Reads a number above zero. -/
def duration : Reader Float := fun g => (float g).andThen aboveZero

/-- The words for the two truth values. -/
def truthWords : List (String × Bool) :=
  [("0", false), ("off", false), ("f", false), ("false", false), ("n", false), ("no", false),
    ("1", true), ("on", true), ("t", true), ("true", true), ("y", true), ("yes", true)]

/-- The truth value of a whole number. -/
def truthOf (n : Int) : Checked Bool :=
  if n = 0 then .valid false else if n = 1 then .valid true else refuse .boolText

/-- Reads a truth value. -/
def bool : Reader Bool
  | .bool b => .valid b
  | .int n => truthOf n
  | .float x =>
    match wholeOf x with
    | .valid n => truthOf n
    | .invalid _ => refuse .notBool
  | .text s =>
    match truthWords.lookup (String.ofList (s.toList.map Char.toLower)) with
    | some b => .valid b
    | none => refuse .boolText
  | _ => refuse .notBool

/-- Reads a value that may be missing. -/
def optional (r : Reader α) : Reader (Option α)
  | .null => .valid none
  | g => (r g).map some

/-- Reads the items of a list from place `i` on. -/
def items (r : Reader α) : Nat → List Json → Checked (List α)
  | _, [] => .valid []
  | i, g :: gs => List.cons <$> (r g).under (.item i) <*> items r (i + 1) gs

/-- Reads a list. -/
def list (r : Reader α) : Reader (List α)
  | .list gs => items r 0 gs
  | _ => refuse .notList

/-- Reads the values of an object. -/
def fieldsOf (r : Reader α) : List (String × Json) → Checked (List (String × α))
  | [] => .valid []
  | (k, g) :: rest =>
    List.cons <$> ((r g).under (.field k)).map (fun a => (k, a)) <*> fieldsOf r rest

/-- Reads an object with values of one type. -/
def table (r : Reader α) : Reader (List (String × α))
  | .object fields => fieldsOf r fields
  | _ => refuse .notObject

/-- Reads one of some words. -/
def oneOf (words : List String) : Reader String
  | .text s => if words.contains s then .valid s else refuse (.noneOf words)
  | _ => refuse (.noneOf words)

/-- Reads a word that stands for a value. -/
def member (words : List (String × α)) : Reader α := fun g =>
  let refused := refuse (.noMember (words.map (·.1)))
  match g with
  | .text s =>
    match words.lookup s with
    | some a => .valid a
    | none => refused
  | _ => refused

/-- Reads a field that must be there. -/
def field (name : String) (r : Reader α) : Reader α := fun g =>
  match g.get? name with
  | some v => (r v).under (.field name)
  | none => .invalid [⟨[.field name], .missing⟩]

/-- Reads a field, or takes its default. -/
def fieldOr (name : String) (r : Reader α) (default : α) : Reader α := fun g =>
  match g.get? name with
  | some v => (r v).under (.field name)
  | none => .valid default

/-- Complains about every field of an object that is not among those named. -/
def closed (names : List String) (r : Reader α) : Reader α := fun g =>
  let extras : List Complaint := match g with
    | .object fields =>
      (fields.filter fun f => !names.contains f.1).map fun f => ⟨[.field f.1], .extra⟩
    | _ => []
  match r g, extras with
  | .valid a, [] => .valid a
  | .valid _, cs => .invalid cs
  | .invalid cs, ds => .invalid (cs ++ ds)

/-- Refuses what is no object of a model. -/
def record (model : String) (r : Reader α) : Reader α
  | .object fields => r (.object fields)
  | _ => refuse (.notRecord model)

/-- A rule about a value as a whole; it is looked at only if its parts are valid. -/
def satisfying (rule? : α → Option String) (r : Reader α) : Reader α := fun g =>
  (r g).andThen fun a =>
    match rule? a with
    | some text => refuse (.rule text)
    | none => .valid a

end Reader

end Lineage.Input
