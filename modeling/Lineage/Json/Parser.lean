import Lineage.Decimal.Scientific
import Lineage.Json.Basic

/-!
Reading values from text. Of two fields of one name the later one counts. A number with a point or an
exponent is no whole number; infinite and undefined numbers are read by their names.
-/

namespace Lineage.Json.Parser

/-- The text after blanks and line ends. -/
def skip (cs : List Char) : List Char :=
  cs.dropWhile fun c => c == ' ' || c == '\n' || c == '\t' || c == '\r'

/-- The value of a hexadecimal digit. -/
def hexDigit? (c : Char) : Option Nat :=
  if '0' ≤ c ∧ c ≤ '9' then some (c.toNat - 48)
  else if 'a' ≤ c ∧ c ≤ 'f' then some (c.toNat - 87)
  else if 'A' ≤ c ∧ c ≤ 'F' then some (c.toNat - 55)
  else none

/-- Four hexadecimal digits. -/
def unit? : List Char → Option (Nat × List Char)
  | a :: b :: c :: d :: rest => do
    return (((← hexDigit? a) * 16 + (← hexDigit? b)) * 256 + (← hexDigit? c) * 16 + (← hexDigit? d),
      rest)
  | _ => none

/-- The character of an escape after its mark. Two escaped surrogates are one character. -/
def escaped? (cs : List Char) : Option (Char × List Char) := do
  let (n, rest) ← unit? cs
  if 0xd800 ≤ n ∧ n < 0xdc00 then
    match rest with
    | '\\' :: 'u' :: rest' =>
      let (m, rest') ← unit? rest'
      if 0xdc00 ≤ m ∧ m < 0xe000 then
        return (Char.ofNat (0x10000 + (n - 0xd800) * 0x400 + (m - 0xdc00)), rest')
      else return ('\ufffd', rest)
    | _ => return ('\ufffd', rest)
  else if 0xdc00 ≤ n ∧ n < 0xe000 then return ('\ufffd', rest)
  else return (Char.ofNat n, rest)

/-- The character that a letter stands for in an escape. -/
def letter? : Char → Option Char
  | '"' => some '"'
  | '\\' => some '\\'
  | '/' => some '/'
  | 'b' => some '\x08'
  | 'f' => some '\x0c'
  | 'n' => some '\n'
  | 'r' => some '\r'
  | 't' => some '\t'
  | _ => none

/-- The text up to its closing quote. `done` holds the characters read, last one first. Each step
uses up a character, so `fuel` may be the length. -/
def string? : Nat → List Char → List Char → Option (String × List Char)
  | 0, _, _ => none
  | fuel + 1, cs, done =>
    match cs with
    | '"' :: rest => some (String.ofList done.reverse, rest)
    | '\\' :: 'u' :: rest => do
      let (c, rest) ← escaped? rest
      string? fuel rest (c :: done)
    | '\\' :: c :: rest => do string? fuel rest ((← letter? c) :: done)
    | c :: rest => if c.toNat < 32 then none else string? fuel rest (c :: done)
    | [] => none

/-- A decimal digit. -/
def isDigit (c : Char) : Bool := '0' ≤ c && c ≤ '9'

/-- The exponent of a number with the text after it, if there is one. -/
def exponent? : List Char → Option (Int × List Char)
  | e :: rest =>
    if e = 'e' ∨ e = 'E' then
      let (negative, rest) := match rest with
        | '-' :: r => (true, r)
        | '+' :: r => (false, r)
        | r => (false, r)
      let digits := rest.takeWhile isDigit
      if digits.isEmpty then none
      else
        let n : Int := Decimal.digitsValue digits
        some (if negative then -n else n, rest.drop digits.length)
    else none
  | [] => none

/-- A number without a sign. -/
def unsigned? (negative : Bool) (cs : List Char) : Option (Json × List Char) :=
  let whole := match cs with
    | '0' :: _ => ['0']
    | _ => cs.takeWhile isDigit
  let rest := cs.drop whole.length
  if whole.isEmpty then none
  else
    let fraction := match rest with
      | '.' :: ds => ds.takeWhile isDigit
      | _ => []
    let afterFraction := if fraction.isEmpty then rest else rest.drop (fraction.length + 1)
    let (e, final) := (exponent? afterFraction).getD (0, afterFraction)
    if final.length = rest.length then
      let n : Int := Decimal.digitsValue whole
      some (.int (if negative then -n else n), final)
    else
      let x := Decimal.scientific (Decimal.digitsValue (whole ++ fraction)) (e - fraction.length)
      some (.float (if negative then -x else x), final)

/-- The rest of a text after a word at its start. -/
def after? (word : String) (cs : List Char) : Option (List Char) :=
  let w := word.toList
  if w.isPrefixOf cs then some (cs.drop w.length) else none

/-- A named value. -/
def named? (cs : List Char) : Option (Json × List Char) :=
  let inf := Decimal.infinity
  [("null", Json.null), ("true", .bool true), ("false", .bool false),
    ("NaN", .float (Float.ofNat 0 / Float.ofNat 0)), ("Infinity", .float inf),
    ("-Infinity", .float (-inf))].findSome? fun (word, j) => (after? word cs).map fun rest => (j, rest)

/-- A field after those already read: a second one of the same name replaces the first. -/
def put (fields : List (String × Json)) (name : String) (j : Json) : List (String × Json) :=
  if fields.any (·.1 == name) then fields.map fun f => if f.1 == name then (name, j) else f
  else fields ++ [(name, j)]

mutual

/-- A value at the start of a text. Values nest at most `fuel` deep. -/
def value? : Nat → List Char → Option (Json × List Char)
  | 0, _ => none
  | fuel + 1, cs =>
    match cs with
    | '"' :: rest => do
      let (s, rest) ← string? (rest.length + 1) rest []
      return (.text s, rest)
    | '[' :: rest =>
      match skip rest with
      | ']' :: rest => some (.list [], rest)
      | rest => do
        let (items, rest) ← items? fuel rest []
        return (.list items, rest)
    | '\x7b' :: rest =>
      match skip rest with
      | '\x7d' :: rest => some (.object [], rest)
      | rest => do
        let (fields, rest) ← fields? fuel rest []
        return (.object fields, rest)
    | _ =>
      match named? cs, cs with
      | some step, _ => some step
      | none, '-' :: rest => unsigned? true rest
      | none, _ => unsigned? false cs

/-- The items of a list up to its end. -/
def items? : Nat → List Char → List Json → Option (List Json × List Char)
  | 0, _, _ => none
  | fuel + 1, cs, done => do
    let (j, rest) ← value? fuel (skip cs)
    match skip rest with
    | ',' :: rest => items? fuel rest (j :: done)
    | ']' :: rest => return ((j :: done).reverse, rest)
    | _ => none

/-- The fields of an object up to its end. -/
def fields? : Nat → List Char → List (String × Json) → Option (List (String × Json) × List Char)
  | 0, _, _ => none
  | fuel + 1, cs, done => do
    match skip cs with
    | '"' :: rest =>
      let (name, rest) ← string? (rest.length + 1) rest []
      match skip rest with
      | ':' :: rest =>
        let (j, rest) ← value? fuel (skip rest)
        let fields := put done name j
        match skip rest with
        | ',' :: rest => fields? fuel rest fields
        | '\x7d' :: rest => return (fields, rest)
        | _ => none
      | _ => none
    | _ => none

end

end Parser

/-- The value that a text holds and nothing else. -/
def parse? (s : String) : Option Json :=
  let cs := s.toList
  match Parser.value? (cs.length + 1) (Parser.skip cs) with
  | some (j, rest) => if (Parser.skip rest).isEmpty then some j else none
  | none => none

end Lineage.Json
