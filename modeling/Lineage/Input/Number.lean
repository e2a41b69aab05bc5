import Lineage.Decimal.Scientific

/-!
Numbers in text. Blanks around a number, single underscores between its digits, zeros in front of it
and, for whole numbers, zeros after a point are allowed.
-/

namespace Lineage.Input.Number

/-- A character that is stripped from the ends of a number. -/
def isBlank (c : Char) : Bool :=
  let n := c.toNat
  (9 ≤ n && n ≤ 13) || n == 0x20 || n == 0x85 || n == 0xa0 || n == 0x1680
    || (0x2000 ≤ n && n ≤ 0x200a) || n == 0x2028 || n == 0x2029 || n == 0x202f || n == 0x205f
    || n == 0x3000

/-- A text without the blanks at its ends. -/
def trim (cs : List Char) : List Char :=
  ((cs.dropWhile isBlank).reverse.dropWhile isBlank).reverse

/-- A decimal digit. -/
def isDigit (c : Char) : Bool := '0' ≤ c && c ≤ '9'

/-- Two underscores stand side by side. -/
def hasDoubleMark : List Char → Bool
  | '_' :: '_' :: _ => true
  | _ :: cs => hasDoubleMark cs
  | [] => false

/-- A text without underscores; they may only stand between other characters, one at a time. -/
def withoutMarks? (cs : List Char) : Option (List Char) :=
  if cs.head? = some '_' ∨ cs.getLast? = some '_' ∨ hasDoubleMark cs then none
  else some (cs.filter (· != '_'))

/-! ### Whole numbers -/

/-- Why a text is no whole number. -/
inductive Fault where
  | malformed
  | tooLong
  deriving DecidableEq, Repr

/-- The most digits that are read. -/
def maxDigits : Nat := 4300

/-- Digits without a zero in front. -/
def strictNat (cs : List Char) : Except Fault Nat :=
  match cs with
  | [] => .error .malformed
  | '0' :: _ :: _ => .error .malformed
  | _ =>
    if !cs.all isDigit then .error .malformed
    else if maxDigits < cs.length then .error .tooLong
    else .ok (Decimal.digitsValue cs)

/-- Digits without a zero in front, after a minus sign or not. -/
def strictInt : List Char → Except Fault Int
  | '-' :: cs => (strictNat cs).map fun n => -(n : Int)
  | cs => (strictNat cs).map Int.ofNat

/-- Skips zeros and underscores after a leading zero. `whole` is the text that starts with the last
one skipped. -/
def skipZeros : List Char → List Char → Option (List Char)
  | whole, [] => some whole
  | _, '0' :: cs => skipZeros ('0' :: cs) cs
  | _, '_' :: cs => skipZeros ('_' :: cs) cs
  | whole, '.' :: _ => some whole
  | _, c :: cs => if isDigit c then some (c :: cs) else none

/-- A number without zeros in front. -/
def withoutZeros? : List Char → Option (List Char)
  | '0' :: cs => skipZeros ('0' :: cs) cs
  | c :: cs => if isDigit c || c == '-' then some (c :: cs) else none
  | [] => none

/-- A number without a point that only zeros follow. -/
def withoutPoint (cs : List Char) : List Char :=
  let whole := cs.takeWhile (· != '.')
  if ((cs.drop whole.length).drop 1).all (· == '0') then whole else cs

/-- The strict form of a number that is written more freely. -/
def strictForm? (cs : List Char) : Option (List Char) := do
  let trimmed := trim cs
  let unsigned ← match trimmed with
    | '+' :: '-' :: _ => none
    | '+' :: rest => some rest
    | _ => some trimmed
  let short := withoutPoint (← withoutZeros? unsigned)
  return (withoutMarks? short).getD short

/-- Reads a whole number. -/
def int (s : String) : Except Fault Int :=
  match strictInt s.toList with
  | .error .malformed =>
    match strictForm? s.toList with
    | some cs => strictInt cs
    | none => .error .malformed
  | other => other

/-! ### Numbers with a fraction -/

/-- The exponent of a number, after its mark; nothing at all is an exponent of zero. -/
def exponent? : List Char → Option Int
  | [] => some 0
  | e :: cs =>
    if e = 'e' ∨ e = 'E' then
      let (negative, digits) := match cs with
        | '-' :: ds => (true, ds)
        | '+' :: ds => (false, ds)
        | ds => (false, ds)
      if digits.isEmpty || !digits.all isDigit then none
      else
        let n : Int := Decimal.digitsValue digits
        some (if negative then -n else n)
    else none

/-- A number without a sign. -/
def unsigned? (cs : List Char) : Option Float :=
  let word := String.ofList (cs.map Char.toLower)
  if word = "inf" ∨ word = "infinity" then some Decimal.infinity
  else if word = "nan" then some (Float.ofNat 0 / Float.ofNat 0)
  else
    let whole := cs.takeWhile isDigit
    let rest := cs.drop whole.length
    let (fraction, rest) := match rest with
      | '.' :: ds => (ds.takeWhile isDigit, ds.dropWhile isDigit)
      | ds => ([], ds)
    if whole.isEmpty && fraction.isEmpty then none
    else (exponent? rest).map fun e =>
      Decimal.scientific (Decimal.digitsValue (whole ++ fraction)) (e - fraction.length)

/-- A number with or without a sign. -/
def signed? : List Char → Option Float
  | '-' :: cs => (unsigned? cs).map fun x => -x
  | '+' :: cs => unsigned? cs
  | cs => unsigned? cs

/-- Reads a number. -/
def float? (s : String) : Option Float :=
  match signed? (trim s.toList) with
  | some x => some x
  | none => (withoutMarks? s.toList).bind signed?

end Lineage.Input.Number
