/-!
The value of a double precision number as a whole number times a power of two, and the rounding of
quotients to whole numbers.
-/

namespace Lineage.Decimal

/-- What a double precision number stands for. A finite one is `mantissa * 2 ^ exponent` with its
sign. -/
inductive Reading where
  | finite (negative : Bool) (mantissa : Nat) (exponent : Int)
  | infinite (negative : Bool)
  | undefined
  deriving DecidableEq, Repr

/-- Reads the fields of a double precision number. -/
def read (x : Float) : Reading :=
  let bits := x.toBits.toNat
  let negative := decide (Nat.pow 2 63 ≤ bits)
  let field : Nat := bits / Nat.pow 2 52 % Nat.pow 2 11
  let fraction : Nat := bits % Nat.pow 2 52
  if field = 2047 then if fraction = 0 then .infinite negative else .undefined
  else if field = 0 then .finite negative fraction (-1074)
  else .finite negative (Nat.pow 2 52 + fraction) ((field : Int) - 1075)

/-- The fraction that equals `mantissa * 2 ^ exponent`. -/
def quotient (mantissa : Nat) (exponent : Int) : Nat × Nat :=
  if 0 ≤ exponent then (mantissa * Nat.pow 2 exponent.toNat, 1) else (mantissa, Nat.pow 2 (-exponent).toNat)

/-- The whole number nearest to a quotient; of two that are equally near, the even one. -/
def roundDiv (num den : Nat) : Nat :=
  let low := num / den
  let rest := 2 * (num % den)
  if rest < den then low
  else if den < rest then low + 1
  else if low % 2 = 0 then low
  else low + 1

/-- A rounded quotient is at most half a unit away. -/
theorem roundDiv_near (num den : Nat) (h : 0 < den) :
    2 * num ≤ (2 * roundDiv num den + 1) * den ∧ 2 * roundDiv num den * den ≤ 2 * num + den := by
  have split := Nat.div_add_mod num den
  have small := Nat.mod_lt num h
  generalize num / den = low at split
  generalize num % den = rest at split small
  have comm : den * low = low * den := Nat.mul_comm den low
  have value : roundDiv num den = low ∧ 2 * rest ≤ den ∨
      roundDiv num den = low + 1 ∧ den ≤ 2 * rest := by
    have hlow : num / den = low := by
      rw [← split, Nat.mul_add_div h, Nat.div_eq_of_lt small, Nat.add_zero]
    have hrest : num % den = rest := by
      rw [← split, Nat.mul_add_mod, Nat.mod_eq_of_lt small]
    unfold roundDiv
    simp only [hlow, hrest]
    split
    · exact .inl ⟨rfl, by omega⟩
    · split
      · exact .inr ⟨rfl, by omega⟩
      · split
        · exact .inl ⟨rfl, by omega⟩
        · exact .inr ⟨rfl, by omega⟩
  rcases value with ⟨e, b⟩ | ⟨e, b⟩ <;> rw [e] <;> constructor <;>
    simp only [Nat.add_mul, Nat.mul_add, Nat.mul_assoc] <;> omega

end Lineage.Decimal
