/-!
The arithmetic of scores. Every rule about scores is written for any `Score` type: double precision
numbers when the program runs, rational numbers where a law needs exact arithmetic.
-/

namespace Lineage

/-- Numbers that similarities and weights are computed with. -/
class Score (α : Type) extends Add α, Sub α, Mul α, Div α where
  ofNat : Nat → α
  le : α → α → Bool
  lt : α → α → Bool

namespace Score

variable {α : Type} [Score α]

/-- No similarity. -/
def zero : α := ofNat 0

/-- Full similarity. -/
def one : α := ofNat 1

/-- The quotient of two counts. -/
def ratio (part whole : Nat) : α := ofNat part / ofNat whole

/-- The larger of two numbers, the first one if they compare equal or not at all. -/
def larger (a b : α) : α := if lt a b then b else a

/-- The smaller of two numbers, the first one if they compare equal or not at all. -/
def smaller (a b : α) : α := if lt b a then b else a

/-- The number moved into the interval from zero to one. -/
def clamp (a : α) : α := smaller one (larger zero a)

end Score

instance : Score Float where
  ofNat := Float.ofNat
  le a b := a ≤ b
  lt a b := a < b

end Lineage
