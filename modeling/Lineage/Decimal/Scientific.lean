/-!
Reading decimal numbers: digits with a power of ten, rounded to the nearest double precision number.
-/

namespace Lineage.Decimal

/-- The value of decimal digits. -/
def digitsValue (cs : List Char) : Nat :=
  cs.foldl (fun n c => 10 * n + (c.toNat - '0'.toNat)) 0

/-- Infinity. -/
def infinity : Float := Float.ofNat 1 / Float.ofNat 0

/-- The double precision number nearest to `m * 10 ^ e`. Exponents far out of range are settled
first. -/
def scientific (m : Nat) (e : Int) : Float :=
  let size : Int := (Nat.toDigits 10 m).length
  if m = 0 ∨ e + size < -400 then Float.ofNat 0
  else if 400 < e + size then infinity
  else if 0 ≤ e then Float.ofScientific m false e.toNat
  else Float.ofScientific m true (-e).toNat

end Lineage.Decimal
