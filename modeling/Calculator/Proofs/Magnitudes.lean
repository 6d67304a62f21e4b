import Calculator.Proofs.DoubleBits
import Calculator.Proofs.ExactRounding

namespace Calculator

namespace Dyadic

/-- A double has such a magnitude: no more units than two binades hold, and the unit of a binade. -/
structure Fits (d : Dyadic) : Prop where
  few : d.mantissa < 2 * binadeSize
  unit : ∃ k : Nat, k ≤ 2045 ∧ d.exponent = k - 1074

/-- Bits above the lowest binade count the binades below their own, and the units in it. -/
theorem ofBits_of_normal {m : Nat} (k : Nat) (normal : binadeSize ≤ m)
    (below : m < 2 * binadeSize) : ofBits (k * binadeSize + m) = ⟨m, k - 1074⟩ := by
  have size : 0 < binadeSize := by decide
  obtain ⟨units, rfl⟩ := Nat.exists_eq_add_of_le normal
  have counted : units + binadeSize * (k + 1) = k * binadeSize + (binadeSize + units) := by
    rw [Nat.mul_succ, Nat.mul_comm]
    omega
  have above : ¬k * binadeSize + (binadeSize + units) < binadeSize := by omega
  obtain ⟨binade, rest⟩ := (Nat.div_mod_unique size).mpr ⟨counted, by omega⟩
  rw [ofBits, if_neg above, binade, rest, Nat.add_comm]
  congr 1
  omega

/-- As many units as two binades hold are a magnitude: where they are too few for the binade of
their unit, they are twice as many of half the unit. -/
theorem exists_bits (k : Nat) {m : Nat} (below : m < 2 * binadeSize) :
    ∃ bits < (k + 2) * binadeSize, (ofBits bits).value = m * (2 : ℚ) ^ (k - 1074 : Int) := by
  induction k generalizing m with
  | zero =>
    refine ⟨m, by omega, ?_⟩
    by_cases normal : binadeSize ≤ m
    · have here := ofBits_of_normal 0 normal below
      rw [Nat.zero_mul, Nat.zero_add] at here
      rw [here, value]
    · rw [ofBits, if_pos (Nat.lt_of_not_le normal), value]
      rfl
  | succ k ih =>
    by_cases normal : binadeSize ≤ m
    · refine ⟨(k + 1) * binadeSize + m, by rw [Nat.add_mul (k + 1)]; omega, ?_⟩
      rw [ofBits_of_normal (k + 1) normal below, value]
    · obtain ⟨bits, small, same⟩ := ih (m := 2 * m) (by omega)
      refine ⟨bits, small.trans_le (Nat.mul_le_mul_right _ (by omega)), ?_⟩
      have unit : ((k + 1 : Nat) - 1074 : Int) = 1 + (k - 1074) := by omega
      rw [same, unit, zpow_add₀ two_ne_zero, zpow_one, Nat.cast_mul, Nat.cast_two]
      ring

variable {bits other : MagnitudeBits}

theorem den_toRatio_pos (d : Dyadic) : 0 < d.toRatio.den :=
  Ratio.den_scaled_pos Nat.two_pos _ _

theorem value_toRatio (d : Dyadic) : d.toRatio.value = d.value := Ratio.value_scaled _ _

/-- Numbers of one magnitude have the same bits. -/
theorem bits_of_value (finite : bits < infinityBits) (number : other < infinityBits)
    (same : (ofBits bits).value = (ofBits other).value) : bits = other := by
  have den := (ofBits bits).den_toRatio_pos
  have value := (ofBits bits).value_toRatio
  rw [← Ratio.toBits_of_value finite den value, Ratio.toBits_of_value number den (value.trans same)]

/-- The magnitude of a double is not rounded. -/
theorem Fits.toBits {d : Dyadic} (fits : d.Fits) :
    d.toRatio.toBits < infinityBits ∧ (ofBits d.toRatio.toBits).value = d.value := by
  obtain ⟨few, k, low, unit⟩ := fits
  obtain ⟨bits, below, same⟩ := exists_bits k few
  rw [← unit] at same
  have top : infinityBits = 2047 * binadeSize := rfl
  have finite : bits < infinityBits := by
    rw [top]
    exact below.trans_le (Nat.mul_le_mul_right binadeSize (by omega))
  rw [Ratio.toBits_of_value finite d.den_toRatio_pos (d.value_toRatio.trans same.symm)]
  exact ⟨finite, same⟩

end Dyadic

open Float.Model (Format UnpackedFloat)
open Float.Model.UnpackedFloat

/-- The number that an unpacked double is, without its sign; zero where it is none. -/
def unpackedMagnitude : UnpackedFloat → ℚ
  | .finite _ mantissa exponent _ => mantissa * 2 ^ exponent
  | _ => 0

/-- The number that a double is, without its sign; zero where it is none. -/
def magnitude (x : Float) : ℚ := unpackedMagnitude x.toModel.unpack

/-- A word stands for the magnitude of its bits: those of the lowest binade have a unit of their
own, and in the others the leading unit is not stored. -/
theorem unpackedMagnitude_unpack {w : BitVec Format.binary64.numBits}
    (finite : w.toNat % signBit < infinityBits) :
    unpackedMagnitude (unpack Format.binary64 w) = (Dyadic.ofBits (w.toNat % signBit)).value := by
  rw [mod_signBit_eq] at finite ⊢
  have small : (unpackMantissa w).toNat < binadeSize := (unpackMantissa w).isLt
  have number : unpackExponent w ≠ -1#11 := by
    intro infinite
    rw [infinite] at finite
    exact absurd finite (Nat.not_lt.mpr (Nat.le_add_right _ _))
  unfold unpack
  dsimp only
  rw [if_neg number]
  split
  next subnormal =>
    have lowest : (unpackExponent w).toNat * binadeSize = 0 := by
      rw [subnormal]
      exact Nat.zero_mul _
    rw [lowest, Nat.zero_add, Dyadic.ofBits, if_pos small, Dyadic.value, subnormal]
    split
    next zero =>
      rw [zero]
      exact (zero_mul _).symm
    next => rfl
  next normal =>
    -- The lowest binade has no exponent of its own, so the stored one counts one binade more.
    obtain ⟨k, exponent⟩ : ∃ k, (unpackExponent w).toNat = k + 1 :=
      Nat.exists_eq_succ_of_ne_zero fun zero => normal (BitVec.eq_of_toNat_eq zero)
    have unit : ((k + 1 : Nat) : Int) - (Format.binary64.exponentBias +
        Format.binary64.mantissaBitsWithoutImplicit) = k - 1074 := by
      show ((k + 1 : Nat) : Int) - (1023 + 52) = k - 1074
      omega
    have magnitude := Dyadic.ofBits_of_normal k (Nat.le_add_right binadeSize _)
      (by omega : binadeSize + (unpackMantissa w).toNat < 2 * binadeSize)
    rw [exponent, Nat.succ_mul, Nat.add_assoc, magnitude, Dyadic.value, unpackedMagnitude, unit]
    exact congrArg (fun n : Nat => (n : ℚ) * 2 ^ (k - 1074 : Int)) (toNat_one_append _)

variable {x y : Float}

theorem magnitude_eq (finite : isFiniteFloat x) :
    magnitude x = (Dyadic.ofBits (magnitudeBits x)).value :=
  unpackedMagnitude_unpack (of_decide_eq_true finite)

theorem magnitude_nonneg (x : Float) : 0 ≤ magnitude x := by
  unfold magnitude unpackedMagnitude
  split <;> positivity

/-- A finite double is determined by its sign and its magnitude. -/
theorem eq_of_magnitude (finite : isFiniteFloat x) (number : isFiniteFloat y)
    (sign : isNegative x = isNegative y) (same : magnitude x = magnitude y) : x = y := by
  rw [magnitude_eq finite, magnitude_eq number] at same
  have bits := Dyadic.bits_of_value (of_decide_eq_true finite) (of_decide_eq_true number) same
  rw [← floatOfBits_magnitudeBits finite, ← floatOfBits_magnitudeBits number, sign, bits]

end Calculator
