import Lineage.Decimal.Binary

/-!
Numbers with a fixed count of decimal places. The exact value is rounded, and a half goes to the
even neighbour.
-/

namespace Lineage.Decimal

/-- A text filled up with zeros on the left. -/
def padZeros (width : Nat) (s : String) : String :=
  String.ofList (List.replicate (width - s.length) '0') ++ s

/-- A count of units of `10 ^ -places` as a decimal number. -/
def placed (places units : Nat) : String :=
  if places = 0 then toString units
  else
    toString (units / Nat.pow 10 places) ++ "." ++ padZeros places (toString (units % Nat.pow 10 places))

/-- The number of units of `10 ^ -places` nearest to `mantissa * 2 ^ exponent`. -/
def units (places mantissa : Nat) (exponent : Int) : Nat :=
  let (num, den) := quotient mantissa exponent
  roundDiv (num * Nat.pow 10 places) den

/-- The text of a number with a fixed count of decimal places. -/
def fixed (places : Nat) (x : Float) : String :=
  match read x with
  | .finite negative m e => (if negative then "-" else "") ++ placed places (units places m e)
  | .infinite negative => if negative then "-inf" else "inf"
  | .undefined => "nan"

/-- A number rounded to a count of decimal places. -/
def roundTo (places : Nat) (x : Float) : Float :=
  match read x with
  | .finite negative m e =>
    let rounded := Float.ofScientific (units places m e) true places
    if negative then -rounded else rounded
  | _ => x

end Lineage.Decimal
