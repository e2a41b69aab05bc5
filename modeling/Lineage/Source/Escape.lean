import Lineage.Sequence.Total
import Lineage.Text.CodeRanges

/-!
Escape sequences of string literals. Text escapes give code points, surrogates among them; byte
escapes give bytes. A backslash in front of any other character stands for itself.
-/

namespace Lineage.Source.Escape

/-- Why an escape sequence cannot be decoded: the reason, and the places in the text where the
sequence starts and where it breaks off. -/
structure Fault where
  reason : String
  start : Nat
  stop : Nat

/-- How the fault of a text is described. -/
def Fault.textMessage (f : Fault) : String :=
  let place := if f.start + 1 = f.stop then "byte 0x5c in position " ++ toString f.start
    else "bytes in position " ++ toString f.start ++ "-" ++ toString (f.stop - 1)
  "(unicode error) 'unicodeescape' codec can't decode " ++ place ++ ": " ++ f.reason

/-- How the fault of a byte string is described. -/
def Fault.bytesMessage (f : Fault) : String :=
  "(value error) invalid \\x escape at position " ++ toString f.start

/-- The value of a hexadecimal digit in either case. -/
def hexDigit? (c : Char) : Option Nat :=
  if '0' ≤ c ∧ c ≤ '9' then some (c.toNat - '0'.toNat)
  else if 'a' ≤ c ∧ c ≤ 'f' then some (c.toNat - 'a'.toNat + 10)
  else if 'A' ≤ c ∧ c ≤ 'F' then some (c.toNat - 'A'.toNat + 10)
  else none

/-- Reads a number of hexadecimal digits. Without enough of them it gives how many there were. -/
def hexRun : Nat → List Char → Nat → Nat → Except Nat (Nat × List Char)
  | 0, cs, value, _ => .ok (value, cs)
  | _ + 1, [], _, seen => .error seen
  | count + 1, c :: cs, value, seen =>
    match hexDigit? c with
    | some d => hexRun count cs (16 * value + d) (seen + 1)
    | none => .error seen

/-- An octal digit. -/
def isOctal (c : Char) : Bool := '0' ≤ c && c < '8'

/-- The value of up to three octal digits and what follows them. -/
def octal (cs : List Char) : Nat × List Char :=
  let digits := (cs.take 3).takeWhile isOctal
  (digits.foldl (fun n d => 8 * n + (d.toNat - '0'.toNat)) 0, cs.drop digits.length)

/-- The escapes of one letter. -/
def simple? : Char → Option Nat
  | '\\' => some 92
  | '\'' => some 39
  | '"' => some 34
  | 'a' => some 7
  | 'b' => some 8
  | 'f' => some 12
  | 'n' => some 10
  | 'r' => some 13
  | 't' => some 9
  | 'v' => some 11
  | _ => none

/-- How many places a character takes up when places are counted for a message: characters from 128
on are counted in their long escaped form. -/
def width (c : Char) : Nat := if c.toNat < 128 then 1 else 10

/-- The number of digits and the reason of failure for the escapes with hexadecimal digits. -/
def hexEscape? : Char → Option (Nat × String)
  | 'x' => some (2, "truncated \\xXX escape")
  | 'u' => some (4, "truncated \\uXXXX escape")
  | 'U' => some (8, "truncated \\UXXXXXXXX escape")
  | _ => none

/-- A named character after the `N` of its escape: its code point, the rest and the places used up.
`named?` looks a name up. -/
def named (named? : List Char → Option Nat) (at_ : Nat) (cs : List Char) :
    Except Fault (Nat × List Char × Nat) :=
  let malformed (n : Nat) : Except Fault (Nat × List Char × Nat) :=
    .error ⟨"malformed \\N character escape", at_, at_ + n⟩
  match cs with
  | '\x7b' :: rest =>
    let name := rest.takeWhile (· != '\x7d')
    let used := Sequence.total (name.map width)
    match rest.drop name.length with
    | [] => malformed (3 + used)
    | _ :: rest =>
      if name.isEmpty then malformed 3
      else
        match named? name with
        | some n => .ok (n, rest, 2 + used)
        | none => .error ⟨"unknown Unicode character name", at_, at_ + 4 + used⟩
  | _ => malformed 2

/-- Decodes the text of a literal. `place` counts the places passed, `done` holds the code points
read, last one first. Each step uses up a character, so `fuel` may be the length. -/
def textOnto (named? : List Char → Option Nat) :
    Nat → List Char → Nat → List Nat → Except Fault (List Nat)
  | 0, _, _, done => .ok done.reverse
  | _ + 1, [], _, done => .ok done.reverse
  | fuel + 1, '\\' :: c :: cs, place, done =>
    match simple? c with
    | some n => textOnto named? fuel cs (place + 2) (n :: done)
    | none =>
      if c = '\n' then textOnto named? fuel cs (place + 2) done
      else if isOctal c then
        let (n, rest) := octal (c :: cs)
        textOnto named? fuel rest (place + 2 + cs.length - rest.length) (n :: done)
      else if c = 'N' then
        match named named? place cs with
        | .ok (n, rest, used) => textOnto named? fuel rest (place + 2 + used) (n :: done)
        | .error f => .error f
      else
        match hexEscape? c with
        | some (count, reason) =>
          match hexRun count cs 0 0 with
          | .ok (n, rest) =>
            if n < 0x110000 then textOnto named? fuel rest (place + 2 + count) (n :: done)
            else .error ⟨"illegal Unicode character", place, place + 2 + count⟩
          | .error seen => .error ⟨reason, place, place + 2 + seen⟩
        | none =>
          if c.toNat < 128 then textOnto named? fuel cs (place + 2) (c.toNat :: 92 :: done)
          else textOnto named? fuel cs (place + 16) (c.toNat :: 92 :: done)
  | fuel + 1, c :: cs, place, done => textOnto named? fuel cs (place + width c) (c.toNat :: done)

/-- The code points of the text of a literal. -/
def text (named? : List Char → Option Nat) (cs : List Char) : Except Fault (List Nat) :=
  textOnto named? (cs.length + 1) cs 0 []

/-- Decodes the text of a byte string, as `textOnto` does for text. -/
def bytesOnto : Nat → List Char → Nat → List UInt8 → Except Fault (List UInt8)
  | 0, _, _, done => .ok done.reverse
  | _ + 1, [], _, done => .ok done.reverse
  | fuel + 1, '\\' :: c :: cs, place, done =>
    match simple? c with
    | some n => bytesOnto fuel cs (place + 2) (UInt8.ofNat n :: done)
    | none =>
      if c = '\n' then bytesOnto fuel cs (place + 2) done
      else if isOctal c then
        let (n, rest) := octal (c :: cs)
        bytesOnto fuel rest (place + 2 + cs.length - rest.length) (UInt8.ofNat n :: done)
      else if c = 'x' then
        match hexRun 2 cs 0 0 with
        | .ok (n, rest) => bytesOnto fuel rest (place + 4) (UInt8.ofNat n :: done)
        | .error _ => .error ⟨"", place, place⟩
      else bytesOnto fuel cs (place + 2) (UInt8.ofNat c.toNat :: 92 :: done)
  | fuel + 1, c :: cs, place, done => bytesOnto fuel cs (place + 1) (UInt8.ofNat c.toNat :: done)

/-- The bytes of the text of a byte string. -/
def bytes (cs : List Char) : Except Fault (List UInt8) :=
  bytesOnto (cs.length + 1) cs 0 []

end Lineage.Source.Escape
