import Lineage.Score
import Mathlib.Data.Prod.Lex

/-! # The order of scores

Double precision numbers are not ordered: what is not a number compares with nothing, and
there are two zeros.  What the selection of candidates relies on is less than an order
(`Score.Ordered`): comparing is transitive, and total among what is a number.  The scores
that are compared have been moved into the unit interval, which gives a number whatever
it is given (`Score.number_clamp`).

Double precision numbers satisfy this because they compare as their places do, which are
triples of integers in lexicographic order (`compare_unpacked`).
-/
namespace Lineage

namespace Score

/-- The score is a number: it compares with itself. -/
def Number {α : Type} [Score α] (a : α) : Prop := le a a = true

/-- Comparing is transitive, and total among numbers. -/
class Ordered (α : Type) [Score α] : Prop where
  le_trans {a b c : α} : le a b = true → le b c = true → le a c = true
  number {a b : α} : le a b = true → Number a ∧ Number b
  total {a b : α} : Number a → Number b → le a b = true ∨ le b a = true
  lt_iff {a b : α} : lt a b = true ↔ le a b = true ∧ le b a = false
  number_zero : Number (zero : α)
  number_one : Number (one : α)

variable {α : Type} [Score α] [Ordered α] {a b c : α}
open Ordered

/-- Moving into the unit interval gives a number. -/
theorem number_clamp (a : α) : Number (clamp a) := by
  have hlarger : Number (larger zero a) := by
    unfold larger
    split
    · rename_i hlt
      exact (number (lt_iff.mp hlt).1).2
    · exact number_zero
  unfold clamp smaller
  split
  · exact hlarger
  · exact number_one

theorem clamp_le_one (a : α) : le (clamp a) one = true := by
  unfold clamp smaller
  split
  · rename_i hlt
    exact (lt_iff.mp hlt).1
  · exact number_one

theorem le_of_le_of_lt (hab : le a b = true) (hbc : lt b c = true) : le a c = true :=
  le_trans hab (lt_iff.mp hbc).1

/-- A number that does not reach a bound is less than all that do. -/
theorem lt_of_not_reach (hc : Number c) (hab : le a b = true) (hac : le a c = false) :
    lt c b = true := by
  have hbc : le b c = false := by
    rw [Bool.eq_false_iff]
    intro hbc
    rw [le_trans hab hbc] at hac
    cases hac
  exact lt_iff.mpr ⟨(total hc (number hab).2).resolve_right (Bool.eq_false_iff.mp hbc), hbc⟩

/-! ### Double precision numbers -/

open Float.Model (UnpackedFloat)

/-- Where a number stands among all numbers: its class with the sign, then the exponent and the
mantissa, which count the other way below zero. -/
abbrev Place : Type := ℤ ×ₗ ℤ ×ₗ ℤ

/-- The place of an unpacked number. -/
def unpackedPlace? : UnpackedFloat → Option Place
  | .notANumber => none
  | .infinity .negative => some (toLex (-2, toLex (0, 0)))
  | .finite .negative m e _ => some (toLex (-1, toLex (-e, -(m : ℤ))))
  | .zero _ => some (toLex (0, toLex (0, 0)))
  | .finite .positive m e _ => some (toLex (1, toLex (e, (m : ℤ))))
  | .infinity .positive => some (toLex (2, toLex (0, 0)))

theorem compare_toLex {β γ : Type} [LinearOrder β] [LinearOrder γ] (x x' : β) (y y' : γ) :
    compare (toLex (x, y)) (toLex (x', y')) = (compare x x').then (compare y y') := rfl

theorem compare_neg (x y : ℤ) : compare (-x) (-y) = (compare x y).swap := by
  rw [← Std.OrientedOrd.eq_swap, Int.compare_eq_ite_lt, Int.compare_eq_ite_lt]
  simp only [Int.neg_lt_neg_iff]

/-- Numbers compare as their places do, and what is not a number with nothing. -/
theorem compare_unpacked (a b : UnpackedFloat) : a.compare b
    = (unpackedPlace? a).bind fun x => (unpackedPlace? b).map fun y => compare x y := by
  have hnat : ∀ m n : ℕ, compare (m : ℤ) (n : ℤ) = compare m n := by
    intro m n
    rw [Int.compare_eq_ite_lt, Nat.compare_eq_ite_lt]
    simp only [Int.ofNat_lt]
  -- only numbers of one class with one sign look further than the class
  rcases a with ⟨_ | _⟩ | _ | ⟨_ | _⟩ | ⟨_ | _, m, e, _⟩ <;>
    rcases b with ⟨_ | _⟩ | _ | ⟨_ | _⟩ | ⟨_ | _, m', e', _⟩ <;> try rfl
  · show some ((compare e e').then (compare m m')).swap
      = some (compare (toLex (-1, _)) (toLex (-1, _)))
    rw [compare_toLex, compare_toLex, compare_eq_iff_eq.mpr rfl, compare_neg, compare_neg, hnat,
      Ordering.swap_then]
    rfl
  · show some ((compare e e').then (compare m m')) = some (compare (toLex (1, _)) (toLex (1, _)))
    rw [compare_toLex, compare_toLex, compare_eq_iff_eq.mpr rfl, hnat]
    rfl

theorem unpacked_le {a b : UnpackedFloat} : a.le b = true ↔
    ∃ x y, unpackedPlace? a = some x ∧ unpackedPlace? b = some y ∧ x ≤ y := by
  rw [UnpackedFloat.le, compare_unpacked]
  rcases unpackedPlace? a with _ | x <;> rcases unpackedPlace? b with _ | y
  · simp
  · simp
  · simp
  · simp [← compare_le_iff_le, Ordering.isLE_iff_ne_gt]

theorem unpacked_lt {a b : UnpackedFloat} : a.lt b = true ↔
    ∃ x y, unpackedPlace? a = some x ∧ unpackedPlace? b = some y ∧ x < y := by
  rw [UnpackedFloat.lt, compare_unpacked]
  rcases unpackedPlace? a with _ | x <;> rcases unpackedPlace? b with _ | y <;>
    simp [compare_lt_iff_lt]

/-- The place of a number. -/
def place? (a : Float) : Option Place := unpackedPlace? a.toModel.unpack

theorem float_le {a b : Float} :
    le a b = true ↔ ∃ x y, place? a = some x ∧ place? b = some y ∧ x ≤ y :=
  (decide_eq_true_iff (p := a ≤ b)).trans
    ((decide_eq_true_iff (p := a.toModel ≤ b.toModel)).trans unpacked_le)

theorem float_lt {a b : Float} :
    lt a b = true ↔ ∃ x y, place? a = some x ∧ place? b = some y ∧ x < y :=
  (decide_eq_true_iff (p := a < b)).trans
    ((decide_eq_true_iff (p := a.toModel < b.toModel)).trans unpacked_lt)

theorem float_number {a : Float} : Number a ↔ ∃ x, place? a = some x := by
  rw [Number, float_le]
  exact ⟨fun ⟨x, _, hx, _⟩ => ⟨x, hx⟩, fun ⟨x, hx⟩ => ⟨x, x, hx, hx, le_refl x⟩⟩

instance : Ordered Float where
  le_trans hab hbc := by
    rw [float_le] at hab hbc ⊢
    obtain ⟨x, y, hx, hy, hxy⟩ := hab
    obtain ⟨y', z, hy', hz, hyz⟩ := hbc
    obtain rfl := Option.some.inj (hy.symm.trans hy')
    exact ⟨x, z, hx, hz, hxy.trans hyz⟩
  number hab := by
    obtain ⟨x, y, hx, hy, -⟩ := float_le.mp hab
    exact ⟨float_number.mpr ⟨x, hx⟩, float_number.mpr ⟨y, hy⟩⟩
  total ha hb := by
    obtain ⟨x, hx⟩ := float_number.mp ha
    obtain ⟨y, hy⟩ := float_number.mp hb
    rw [float_le, float_le]
    rcases le_total x y with h | h
    · exact .inl ⟨x, y, hx, hy, h⟩
    · exact .inr ⟨y, x, hy, hx, h⟩
  lt_iff := by
    intro a b
    rw [float_lt, float_le, ← Bool.not_eq_true, float_le]
    constructor
    · rintro ⟨x, y, hx, hy, hxy⟩
      refine ⟨⟨x, y, hx, hy, hxy.le⟩, ?_⟩
      rintro ⟨y', x', hy', hx', hyx⟩
      obtain rfl := Option.some.inj (hx.symm.trans hx')
      obtain rfl := Option.some.inj (hy.symm.trans hy')
      exact hyx.not_gt hxy
    · rintro ⟨⟨x, y, hx, hy, -⟩, hnot⟩
      exact ⟨x, y, hx, hy, not_le.mp fun hyx => hnot ⟨y, x, hy, hx, hyx⟩⟩
  number_zero := by
    show le zero zero = true
    decide +kernel
  number_one := by
    show le one one = true
    decide +kernel

end Score
end Lineage
