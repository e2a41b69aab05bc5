import Lineage.Decimal.Fixed

/-!
The shortest decimal text of a number: the fewest digits that lie nearer to it than to any other
double precision number, and of those the nearest.

A number rounds to `m * 2 ^ q` if it lies between the middles to its two neighbours; the middles
themselves belong to it if `m` is even. For each count of digits the two neighbours of the value on
that decimal grid are tried.
-/

namespace Lineage.Decimal

/-- A decimal number `digits * 10 ^ exponent`. -/
structure Scaled where
  digits : Nat
  exponent : Int
  deriving DecidableEq, Repr

/-- The numbers that round to a value, in units of a common denominator. -/
structure Basin where
  low : Nat
  value : Nat
  high : Nat
  closed : Bool
  den : Nat

/-- The numbers that round to `m * 2 ^ q`, in quarters. Below a power of two the gap is half as
wide. -/
def basin (m : Nat) (q : Int) : Basin :=
  let (scale, den) := quotient 1 (q - 2)
  let below := if m = Nat.pow 2 52 ∧ -1074 < q then 1 else 2
  ⟨(4 * m - below) * scale, 4 * m * scale, (4 * m + 2) * scale, m % 2 = 0, den⟩

/-- The number `num / den` belongs to the basin, where `num` is scaled by `up` and the basin by
`down`. -/
def Basin.has (b : Basin) (num down : Nat) : Bool :=
  let low := b.low * down
  let high := b.high * down
  if b.closed then low ≤ num && num ≤ high else low < num && num < high

/-- The exponent of the leading decimal digit of `num / den`, which is positive. -/
def magnitude (num den : Nat) : Int :=
  if den ≤ num then (toString (num / den)).length - 1
  else
    let count := (toString (den / num)).length
    if den ≤ Nat.pow 10 (count - 1) * num then -(count - 1 : Nat) else -count

/-- The neighbour of the value with `count` digits that belongs to the basin, the nearer one if both
do. -/
def candidate? (b : Basin) (top : Int) (count : Nat) : Option Scaled :=
  let exponent := top + 1 - count
  -- the value in units of the grid is `num / den`
  let (up, down) := if 0 ≤ exponent then (Nat.pow 10 exponent.toNat, 1) else (1, Nat.pow 10 (-exponent).toNat)
  let num := b.value * down
  let den := b.den * up
  let lower := num / den
  let hit (d : Nat) : Bool := b.has (d * den) down
  let nearer := roundDiv num den
  if hit lower && hit (lower + 1) then some ⟨nearer, exponent⟩
  else if hit lower then some ⟨lower, exponent⟩
  else if hit (lower + 1) then some ⟨lower + 1, exponent⟩
  else none

/-- Drops zeros at the end of the digits; `fuel` bounds their number. -/
def Scaled.strip : Nat → Scaled → Scaled
  | 0, s => s
  | fuel + 1, s =>
    if s.digits ≠ 0 ∧ s.digits % 10 = 0 then Scaled.strip fuel ⟨s.digits / 10, s.exponent + 1⟩ else s

/-- The shortest decimal number that reads back as `m * 2 ^ q`, which is positive. Seventeen digits
always suffice. -/
def shortest (m : Nat) (q : Int) : Scaled :=
  let b := basin m q
  let top := magnitude b.value b.den
  let found := ((List.range 17).findSome? fun i => candidate? b top (i + 1)).getD ⟨0, 0⟩
  found.strip 18

/-- How a shortest number is written: positional if the exponent of its leading digit lies between
the two bounds, otherwise with an exponent of at least two digits. A whole number ends in a zero
after the point if `pointed` says so. -/
structure ShortestStyle where
  lowest : Int
  highest : Int
  pointed : Bool

/-- The text of a positive decimal number. -/
def Scaled.text (style : ShortestStyle) (s : Scaled) : String :=
  let digits := toString s.digits
  let top : Int := s.exponent + digits.length - 1
  if style.lowest ≤ top ∧ top ≤ style.highest then
    if 0 ≤ s.exponent then
      digits ++ String.ofList (List.replicate s.exponent.toNat '0') ++ (if style.pointed then ".0" else "")
    else placed (-s.exponent).toNat s.digits
  else
    let cs := digits.toList
    let fraction := if cs.length ≤ 1 then "" else "." ++ String.ofList (cs.drop 1)
    String.ofList (cs.take 1) ++ fraction ++ "e" ++ (if top < 0 then "-" else "+")
      ++ padZeros 2 (toString top.natAbs)

/-- The shortest text of a number. -/
def ShortestStyle.text (style : ShortestStyle) (x : Float) : String :=
  match read x with
  | .finite negative m e =>
    let plain := if m = 0 then (if style.pointed then "0.0" else "0") else (shortest m e).text style
    (if negative then "-" else "") ++ plain
  | .infinite negative => if negative then "-inf" else "inf"
  | .undefined => "nan"

end Lineage.Decimal
