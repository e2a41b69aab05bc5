import Lineage.Json.Basic

/-!
Values as text: on one line, or with one field or item a line. Characters outside the basic Latin
range are escaped, those beyond sixteen bits as a pair of surrogates.
-/

namespace Lineage.Json

/-- A number in four hexadecimal digits after the mark of an escape. -/
def unit (n : Nat) (rest : List Char) : List Char :=
  '\\' :: 'u' :: Text.Quoted.hexOnto 4 n rest

/-- The text of a character in front of `rest`. -/
def charOnto (c : Char) (rest : List Char) : List Char :=
  let n := c.toNat
  if c = '"' ∨ c = '\\' then '\\' :: c :: rest
  else if n = 8 then '\\' :: 'b' :: rest
  else if n = 9 then '\\' :: 't' :: rest
  else if n = 10 then '\\' :: 'n' :: rest
  else if n = 12 then '\\' :: 'f' :: rest
  else if n = 13 then '\\' :: 'r' :: rest
  else if 32 ≤ n ∧ n < 127 then c :: rest
  else if n < 0x10000 then unit n rest
  else unit (0xd800 + (n - 0x10000) / 0x400) (unit (0xdc00 + (n - 0x10000) % 0x400) rest)

/-- A text in double quotes. -/
def string (s : String) : String :=
  String.ofList ('"' :: s.toList.foldr charOnto ['"'])

/-- A number; infinite and undefined ones have names. -/
def number (x : Float) : String :=
  match Decimal.read x with
  | .infinite negative => if negative then "-Infinity" else "Infinity"
  | .undefined => "NaN"
  | _ => floatStyle.text x

/-- Parts between brackets. `indent` is the indentation of the parts, if they stand on lines of
their own. -/
def bracketed (opening closing : String) (indent : Option Nat) (parts : List String) : String :=
  let blanks (n : Nat) : String := "\n" ++ String.ofList (List.replicate n ' ')
  if parts.isEmpty then opening ++ closing
  else
    match indent with
    | none => opening ++ ", ".intercalate parts ++ closing
    | some n =>
      opening ++ blanks n ++ ("," ++ blanks n).intercalate parts ++ blanks (n - 2) ++ closing

mutual

/-- The text of a value. `indent` is the indentation of its parts, if each stands on its own line. -/
def textAt (indent : Option Nat) : Json → String
  | null => "null"
  | bool b => if b then "true" else "false"
  | int n => toString n
  | float x => number x
  | text s => string s
  | list items => bracketed "[" "]" indent (textsAt (indent.map (· + 2)) items)
  | object fields => bracketed "\x7b" "\x7d" indent (fieldsAt (indent.map (· + 2)) fields)

/-- The texts of the items of a list. -/
def textsAt (indent : Option Nat) : List Json → List String
  | [] => []
  | j :: js => textAt indent j :: textsAt indent js

/-- The texts of the fields of an object. -/
def fieldsAt (indent : Option Nat) : List (String × Json) → List String
  | [] => []
  | (k, j) :: rest => (string k ++ ": " ++ textAt indent j) :: fieldsAt indent rest

end

/-- A value on one line. -/
def line (j : Json) : String := j.textAt none

/-- A value over several lines, indented by two blanks a level. -/
def pretty (j : Json) : String := j.textAt (some 2)

end Lineage.Json
