import Std.Data.TreeMap
import Lineage.Text.NormalTable

/-!
Compatibility normalization of identifiers (Unicode form NFKC): every character is decomposed, marks
are put in the order of their combining classes, and pairs that have a composed form are composed.
-/

namespace Lineage.Text.Normal

/-- Reads entries of the decomposition table. `next` is the code point after the last entry. -/
def readDecompositions : Nat → List Nat → Nat → List (Nat × List Nat)
  | fuel + 1, gap :: length :: rest, next =>
    (next + gap, rest.take length) :: readDecompositions fuel (rest.drop length) (next + gap + 1)
  | _, _, _ => []

/-- The decompositions by character. -/
def decompositions : Std.TreeMap Nat (List Nat) :=
  let numbers := hexNumbers decompositionTable
  .ofList (readDecompositions numbers.length numbers 0)

/-- Reads ranges of combining classes. `next` is the code point after the last range. -/
def readClasses : List Nat → Nat → List (Nat × Nat)
  | gap :: length :: cls :: rest, next =>
    (List.range length).map (fun i => (next + gap + i, cls)) ++ readClasses rest (next + gap + length)
  | _, _ => []

/-- The combining classes other than zero by character. -/
def classes : Std.TreeMap Nat Nat :=
  .ofList (readClasses (hexNumbers classTable) 0)

/-- One number for a pair of code points. -/
def pairKey (a b : Nat) : Nat := a * 0x110000 + b

/-- Reads pairs with their composed character. -/
def readCompositions : List Nat → List (Nat × Nat)
  | a :: b :: c :: rest => (pairKey a b, c) :: readCompositions rest
  | _ => []

/-- The composed character of each pair that has one. -/
def compositions : Std.TreeMap Nat Nat :=
  .ofList (readCompositions (hexNumbers compositionTable))

/-- The decomposition of a character. A Hangul syllable falls into two or three letters. -/
def decompose (n : Nat) : List Nat :=
  if 0xac00 ≤ n ∧ n < 0xd7a4 then
    let s := n - 0xac00
    let tail := s % 28
    [0x1100 + s / 588, 0x1161 + s % 588 / 28] ++ if tail = 0 then [] else [0x11a7 + tail]
  else decompositions.getD n [n]

/-- The combining class of a character, zero for a base character. -/
def combiningClass (n : Nat) : Nat := classes.getD n 0

/-- Puts a character into a list of marks, after those whose class is not larger. -/
def insertMark (n : Nat) : List Nat → List Nat
  | [] => [n]
  | m :: ms => if combiningClass m ≤ combiningClass n then m :: insertMark n ms else n :: m :: ms

/-- Sorts each run of marks by combining class and keeps the order within one class. -/
def reorder : List Nat → List Nat → List Nat
  | [], marks => marks
  | n :: rest, marks =>
    if combiningClass n = 0 then marks ++ n :: reorder rest []
    else reorder rest (insertMark n marks)

/-- The character that two characters compose to. -/
def composePair? (a b : Nat) : Option Nat :=
  if 0x1100 ≤ a ∧ a < 0x1113 ∧ 0x1161 ≤ b ∧ b < 0x1176 then
    some (0xac00 + (a - 0x1100) * 588 + (b - 0x1161) * 28)
  else if 0xac00 ≤ a ∧ a < 0xd7a4 ∧ (a - 0xac00) % 28 = 0 ∧ 0x11a7 < b ∧ b < 0x11c3 then
    some (a + (b - 0x11a7))
  else compositions[pairKey a b]?

/-- Composes marks with the last base character `base`. `marks` are the characters after it that
stay, last one first; a mark composes unless one of its class or above stands between. -/
def compose : List Nat → Option Nat → List Nat → List Nat
  | [], base, marks => base.toList ++ marks.reverse
  | n :: rest, none, marks =>
    if combiningClass n = 0 then marks.reverse ++ compose rest (some n) []
    else compose rest none (n :: marks)
  | n :: rest, some base, marks =>
    let blocked := match marks with
      | [] => false
      | m :: _ => combiningClass n ≤ combiningClass m
    match if blocked then none else composePair? base n with
    | some c => compose rest (some c) marks
    | none =>
      if combiningClass n = 0 then base :: marks.reverse ++ compose rest (some n) []
      else compose rest (some base) (n :: marks)

/-- The normalized form of a text. Text without other characters than those below 128 is normal. -/
def nfkc (s : List Char) : List Char :=
  if s.all fun c => c.toNat < 128 then s
  else (compose (reorder (s.flatMap fun c => decompose c.toNat) []) none []).map Char.ofNat

end Lineage.Text.Normal
