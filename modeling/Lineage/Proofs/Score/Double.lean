import Lineage.Score
import Mathlib

/-!
# A full share in double precision

A share is a quotient of two counts. Counts below `2 ^ 53` are double precision numbers without a
loss, so the quotient of a count by itself is exactly one (`Double.ratio_self`).

A number other than zero is kept as a mantissa that takes all the digits there are
(`Double.FullLength`) and an exponent. As long as the result of an operation has such a mantissa,
with zeros behind it, rounding only cuts the zeros off (`Double.roundWithAccuracy_mul`), and packing
the number into its bits loses nothing (`Double.unpack_pack`).
-/

namespace Lineage.Double

open Float.Model Float.Model.UnpackedFloat

variable {m k n : Nat} {e : Int} {s : Sign}

/-- A mantissa that takes all the digits there are. -/
def FullLength (m : Nat) : Prop := 2 ^ 52 ≤ m ∧ m < 2 ^ 53

theorem FullLength.pos (hm : FullLength m) : 0 < m :=
  Nat.lt_of_lt_of_le (Nat.two_pow_pos 52) hm.1

theorem FullLength.log2_mul (hm : FullLength m) (k : Nat) : (m * 2 ^ k).log2 = 52 + k := by
  have hpos : m * 2 ^ k ≠ 0 := (Nat.mul_pos hm.pos (Nat.two_pow_pos k)).ne'
  rw [Nat.log2_eq_iff hpos, Nat.add_right_comm, Nat.pow_add, Nat.pow_add]
  exact ⟨Nat.mul_le_mul_right _ hm.1, Nat.mul_lt_mul_of_pos_right hm.2 (Nat.two_pow_pos k)⟩

/-! ### Rounding what needs no rounding -/

/-- Zeros at the end are shifted out without a trace. -/
theorem shiftRight_mul (m k : Nat) :
    ((⟨m * 2 ^ k, false, false⟩ : ExtendedMantissa) >>> k) = ⟨m, false, false⟩ := by
  show Nat.repeat ExtendedMantissa.shiftRightOne k ⟨m * 2 ^ k, false, false⟩ = _
  induction k generalizing m with
  | zero => rw [Nat.pow_zero, Nat.mul_one]; rfl
  | succ k ih =>
    rw [Nat.repeat, Nat.pow_succ', ← Nat.mul_assoc, ih]
    simp [ExtendedMantissa.shiftRightOne]

theorem shiftToTargetExponent_mul (hm : FullLength m) (he : -1074 ≤ e + k) :
    shiftToTargetExponent .binary64 (m * 2 ^ k) e .exact = (⟨m, false, false⟩, e + k) := by
  have htarget : Format.binary64.targetExponent (totalExponent (m * 2 ^ k) e) = e + k := by
    rw [totalExponent, hm.log2_mul]
    simp [Format.targetExponent, Format.mantissaBits, Format.minExponent]
    omega
  have hshift : (e + k - e).toNat = k := by omega
  rw [shiftToTargetExponent, htarget, shiftToExponent, hshift]
  exact congrArg (·, e + (k : Int)) (shiftRight_mul m k)

/-- A mantissa with zeros behind it is cut back, and the exponent makes up for it. -/
theorem roundWithAccuracy_mul (hm : FullLength m) (he : -1074 ≤ e + k) :
    roundWithAccuracy .binary64 s (m * 2 ^ k) e .exact = .finite s m (e + k) hm.pos := by
  have hagain := shiftToTargetExponent_mul (k := 0) hm (e := e + k) (by omega)
  rw [Nat.pow_zero, Nat.mul_one, Int.natCast_zero, Int.add_zero] at hagain
  have hrounded : ExtendedMantissa.roundedMantissa ⟨m, false, false⟩ = m := rfl
  rw [roundWithAccuracy, shiftToTargetExponent_mul hm he]
  dsimp only
  rw [hrounded, hagain]
  exact dif_neg hm.pos.ne'

theorem roundWithAccuracy_self (hm : FullLength m) (he : -1074 ≤ e) :
    roundWithAccuracy .binary64 s m e .exact = .finite s m e hm.pos := by
  have hround := roundWithAccuracy_mul (k := 0) (s := s) hm (e := e) (by omega)
  simpa only [Nat.pow_zero, Nat.mul_one, Int.natCast_zero, Int.add_zero] using hround

/-! ### Packing a number and unpacking it -/

theorem unpackSign_packComponents (spec : Format) (exponent : BitVec spec.exponentBits)
    (mantissa : BitVec spec.mantissaBitsWithoutImplicit) :
    unpackSign (packComponents spec s exponent mantissa) = s.toBitVec := by
  refine BitVec.eq_of_getLsbD_eq fun i hi => ?_
  obtain rfl : i = 0 := by omega
  simp [unpackSign, packComponents, BitVec.getLsbD_append, BitVec.getElem_append]

/-- The first digit of a mantissa is not packed. -/
theorem toNat_append_one (hm : FullLength m) : (1#1 ++ BitVec.ofNat 52 m).toNat = m := by
  rw [BitVec.toNat_append, ← Nat.shiftLeft_add_eq_or_of_lt (BitVec.isLt _), BitVec.toNat_ofNat]
  obtain ⟨h₀, h₁⟩ := hm
  simp [Nat.shiftLeft_eq]
  omega

theorem pack_eq (hm : FullLength m) {b : Nat} (hb : e + 1075 = b) (hsmall : b + 1 < 2048) :
    UnpackedFloat.pack .binary64 (.finite s m e hm.pos)
      = packComponents .binary64 s (BitVec.ofNat 11 b) (BitVec.ofNat 52 m) := by
  have hlog : m.log2 = 52 := by simpa using hm.log2_mul 0
  have hbiased : (e + (1023 : Nat) + (52 : Nat)).toNat = b := by omega
  show (if 2 ^ 11 ≤ (e + (1023 : Nat) + (52 : Nat)).toNat + 1 then packedInfinity .binary64 s
    else if m.log2 + 1 = 53 then packComponents .binary64 s
      (BitVec.ofNat 11 (e + (1023 : Nat) + (52 : Nat)).toNat) (BitVec.ofNat 52 m)
    else packComponents .binary64 s 0#11 (BitVec.ofNat 52 m)) = _
  rw [hbiased, hlog, if_neg (by omega), if_pos rfl]

/-- A number with a mantissa of full length and an exponent in range loses nothing when it is
packed. -/
theorem unpack_pack (hm : FullLength m) (he : -1074 ≤ e) (he' : e ≤ 971) :
    (Float.Model.pack (.finite s m e hm.pos)).unpack = .finite s m e hm.pos := by
  obtain ⟨b, hb⟩ : ∃ b : Nat, e + 1075 = b := ⟨(e + 1075).toNat, by omega⟩
  have hexponent : (BitVec.ofNat 11 b).toNat = b := by
    rw [BitVec.toNat_ofNat, Nat.mod_eq_of_lt (by omega)]
  have hordinary : BitVec.ofNat 11 b ≠ -1#11 := by
    intro heq
    have hnat : b = 2047 := hexponent.symm.trans (congrArg BitVec.toNat heq)
    omega
  have hnormal : BitVec.ofNat 11 b ≠ 0#11 := by
    intro heq
    have hnat : b = 0 := hexponent.symm.trans (congrArg BitVec.toNat heq)
    omega
  have hsign : Sign.ofBitVec s.toBitVec = s := by cases s <;> rfl
  show UnpackedFloat.unpack .binary64 (UnpackedFloat.pack .binary64 (.finite s m e hm.pos)) = _
  rw [pack_eq hm hb (by omega), UnpackedFloat.unpack]
  simp only [unpackMantissa_packComponents, unpackExponent_packComponents,
    unpackSign_packComponents, hsign, hordinary, hnormal, if_false, hexponent, toNat_append_one hm]
  have hback : (b : Int) - (1023 + 52) = e := by omega
  congr 1

/-! ### Counts as numbers -/

/-- The digits of a count that fits are moved to the front. -/
theorem ofNat_eq (hn : 0 < n) (hsmall : n < 2 ^ 53) :
    ∃ m e, ∃ hm : FullLength m, -52 ≤ e ∧ e ≤ 0 ∧
      UnpackedFloat.ofNat .binary64 n = .finite .positive m e hm.pos := by
  have hlog : n.log2 < 53 := (Nat.log2_lt hn.ne').mpr hsmall
  obtain ⟨hlow, hhigh⟩ := (Nat.log2_eq_iff hn.ne').mp rfl
  obtain ⟨k, hk⟩ : ∃ k, 52 = n.log2 + k := Nat.exists_eq_add_of_le (by omega)
  have hm : FullLength (n * 2 ^ k) := by
    have hleast : 2 ^ 52 = 2 ^ n.log2 * 2 ^ k := by rw [← Nat.pow_add, hk]
    have hlimit : 2 ^ 53 = 2 ^ (n.log2 + 1) * 2 ^ k := by
      rw [← Nat.pow_add]
      exact congrArg (2 ^ ·) (by omega)
    rw [FullLength, hleast, hlimit]
    exact ⟨Nat.mul_le_mul_right _ hlow, Nat.mul_lt_mul_of_pos_right hhigh (Nat.two_pow_pos k)⟩
  refine ⟨n * 2 ^ k, -(k : Int), hm, by omega, by omega, ?_⟩
  have htarget : Format.binary64.targetExponent (totalExponent n 0) = -(k : Int) := by
    simp [Format.targetExponent, totalExponent, Format.mantissaBits, Format.minExponent]
    omega
  have hshift : (0 - -(k : Int)).toNat = k := by omega
  have hback : (0 : Int) - k = -k := by omega
  rw [UnpackedFloat.ofNat, UnpackedFloat.ofInt, UnpackedFloat.normalize,
    Int.compare_eq_gt.mpr (by omega)]
  dsimp only
  rw [Int.toNat_natCast, UnpackedFloat.round, htarget, decreaseExponent, hshift, hback,
    Nat.shiftLeft_eq]
  exact roundWithAccuracy_self hm (by omega)

/-- One, in digits. -/
theorem unpack_one :
    (Float.ofBits 0x3FF0000000000000).toModel.unpack = .finite .positive (2 ^ 52) (-52) (by decide) :=
  rfl

/-- A count that fits is a number other than zero. -/
theorem unpack_ofNat (hn : 0 < n) (hsmall : n < 2 ^ 53) :
    ∃ m e, ∃ hm : FullLength m, (Float.ofNat n).toModel.unpack = .finite .positive m e hm.pos := by
  have hsize : n.toUInt64.toNat = n := by
    rw [UInt64.toNat_ofNat']
    exact Nat.mod_eq_of_lt (by omega)
  obtain ⟨m, e, hm, he, he', hround⟩ := ofNat_eq hn hsmall
  refine ⟨m, e, hm, ?_⟩
  have hfloat : (Float.ofNat n).toModel
      = (Float.Model.ofUInt64 n.toUInt64).mul (Float.ofBits 0x3FF0000000000000).toModel := by
    show (Float.ofScientific n false 0).toModel = _
    rw [Float.ofScientific, dif_pos ⟨hsmall, by omega⟩]
    rfl
  have hcount : (Float.Model.ofUInt64 n.toUInt64).unpack = .finite .positive m e hm.pos := by
    rw [Float.Model.ofUInt64, UnpackedFloat.ofUInt64, hsize, hround]
    exact unpack_pack hm (by omega) (by omega)
  have hproduct : UnpackedFloat.mul .binary64 (.finite .positive m e hm.pos)
      (.finite .positive (2 ^ 52) (-52) (by decide)) = .finite .positive m e hm.pos := by
    have hexponent : e + -52 + (52 : Nat) = e := by omega
    have hround := roundWithAccuracy_mul (k := 52) (s := .positive) hm (e := e + -52) (by omega)
    simp only [hexponent] at hround
    exact hround
  rw [hfloat, Float.Model.mul, hcount, unpack_one, hproduct]
  exact unpack_pack hm (by omega) (by omega)

/-- Divided by itself a mantissa leaves a power of two and no rest. -/
theorem divCore_self (hm : FullLength m) (e : Int) :
    divCore .binary64 m e m e = (2 ^ 53, -53, .exact) := by
  have htarget : Format.binary64.targetExponent (totalExponent m e - totalExponent m e) = -53 := by
    rw [Int.sub_self]
    rfl
  have hmin : min (e - e) (-53) = -53 := by omega
  have hshift : (e - e - -53).toNat = 53 := by omega
  rw [divCore, htarget, hmin, hshift, Nat.shiftLeft_eq, Nat.mul_div_cancel_left _ hm.pos,
    Nat.mul_mod_right]
  rfl

/-- **A full share is one.** -/
theorem ratio_self (hn : 0 < n) (hsmall : n < 2 ^ 53) : (Score.ratio n n : Float) = Score.one := by
  obtain ⟨m, e, hm, hx⟩ := unpack_ofNat hn hsmall
  have hround : roundWithAccuracy .binary64 .positive (2 ^ 53) (-53) .exact
      = .finite .positive (2 ^ 52) (-52) (by decide) :=
    roundWithAccuracy_mul (m := 2 ^ 52) (k := 1) ⟨le_rfl, by decide⟩ (by omega)
  have hquotient : (Float.ofNat n).toModel / (Float.ofNat n).toModel
      = Float.Model.pack (.finite .positive (2 ^ 52) (-52) (by decide)) := by
    show Float.Model.pack (UnpackedFloat.div .binary64 _ _) = _
    rw [hx]
    show Float.Model.pack (match divCore .binary64 m e m e with
      | (m, e, acc) => roundWithAccuracy .binary64 .positive m e acc) = _
    rw [divCore_self hm]
    exact congrArg Float.Model.pack hround
  show Float.ofModel ((Float.ofNat n).toModel / (Float.ofNat n).toModel) = _
  rw [hquotient]
  rfl

end Lineage.Double
