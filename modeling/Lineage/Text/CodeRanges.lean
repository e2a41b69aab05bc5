/-!
Sets of code points given by ranges. A table is written as hexadecimal numbers in turn: how many
code points are left out, how many are taken.
-/

namespace Lineage.Text

/-- The value of a hexadecimal digit in lower case; zero for another character. -/
def hexValue (c : Char) : Nat :=
  if '0' ≤ c ∧ c ≤ '9' then c.toNat - '0'.toNat
  else if 'a' ≤ c ∧ c ≤ 'f' then c.toNat - 'a'.toNat + 10
  else 0

/-- Reads hexadecimal numbers that are separated by blanks or line ends. `value` is the number that is
being read. -/
def hexNumbersFrom : List Char → Option Nat → List Nat
  | [], value => value.toList
  | c :: cs, value =>
    if c = ' ' ∨ c = '\n' then value.toList ++ hexNumbersFrom cs none
    else hexNumbersFrom cs (some (16 * value.getD 0 + hexValue c))

/-- The hexadecimal numbers of a table. -/
def hexNumbers (table : String) : List Nat := hexNumbersFrom table.toList none

/-- Ranges of code points in rising order, each given by its first and its last one. -/
structure CodeRanges where
  bounds : Array (Nat × Nat)

namespace CodeRanges

/-- Turns gaps and lengths into ranges, from the code point `next` on. -/
def boundsFrom : List Nat → Nat → List (Nat × Nat)
  | gap :: length :: rest, next =>
    (next + gap, next + gap + length - 1) :: boundsFrom rest (next + gap + length)
  | _, _ => []

/-- The ranges that a table of gaps and lengths describes. -/
def ofTable (table : String) : CodeRanges :=
  ⟨(boundsFrom (hexNumbers table) 0).toArray⟩

/-- Searches the ranges from place `low` up to `high`, halving them with each step. -/
def search (r : CodeRanges) (n : Nat) : Nat → Nat → Nat → Bool
  | 0, _, _ => false
  | fuel + 1, low, high =>
    if low < high then
      let mid := (low + high) / 2
      match r.bounds[mid]? with
      | none => false
      | some (first, last) =>
        if n < first then r.search n fuel low mid
        else if last < n then r.search n fuel (mid + 1) high
        else true
    else false

/-- The code point is in one of the ranges. -/
def contains (r : CodeRanges) (n : Nat) : Bool :=
  r.search n (r.bounds.size + 1) 0 r.bounds.size

end CodeRanges

end Lineage.Text
