import Calculator.Number.Decimal
import Mathlib

namespace Calculator

open Float.Model (Format UnpackedFloat)
open Float.Model.UnpackedFloat

theorem toNat_unpackExponent (w : BitVec Format.binary64.numBits) :
    (unpackExponent w).toNat = w.toNat / 2 ^ 52 % 2 ^ 11 := by
  rw [unpackExponent_def, BitVec.extractLsb'_toNat, Nat.shiftRight_eq_div_pow]

theorem toNat_unpackMantissa (w : BitVec Format.binary64.numBits) :
    (unpackMantissa w).toNat = w.toNat % 2 ^ 52 := by
  rw [unpackMantissa_def, BitVec.extractLsb'_toNat, Nat.shiftRight_zero]

/-- The bits of a magnitude are those of the exponent and, below them, those of the mantissa. -/
theorem mod_signBit_eq (w : BitVec Format.binary64.numBits) : w.toNat % signBit =
    (unpackExponent w).toNat * binadeSize + (unpackMantissa w).toNat := by
  have sign : signBit = 2 ^ 63 := rfl
  have size : binadeSize = 2 ^ 52 := rfl
  rw [toNat_unpackExponent, toNat_unpackMantissa, sign, size]
  omega

/-- The mantissa of a number above the lowest binade has a bit that is not stored. -/
theorem toNat_one_append (mantissa : BitVec 52) :
    (1#1 ++ mantissa).toNat = binadeSize + mantissa.toNat := by
  rw [BitVec.toNat_append, ← Nat.shiftLeft_add_eq_or_of_lt mantissa.isLt]
  rfl

/-- No word up to that of infinity, its sign apart, stands for what is not a number. -/
theorem isNaNBits_of_le {w : BitVec Format.binary64.numBits}
    (h : w.toNat % 2 ^ 63 ≤ infinityBits) : isNaNBits w = false := by
  refine decide_eq_false ?_
  rintro ⟨infinite, present⟩
  have exponent : w.toNat / 2 ^ 52 % 2 ^ 11 = 2047 := by
    rw [← toNat_unpackExponent, infinite]
    rfl
  have bound : w.toNat % 2 ^ 63 ≤ 2047 * 2 ^ 52 := h
  refine present (BitVec.eq_of_toNat_eq ?_)
  rw [toNat_unpackMantissa]
  show w.toNat % 2 ^ 52 = 0
  omega

/-- A double keeps the bits that it was made of. -/
theorem toBits_ofBits {w : UInt64} (h : w.toNat % 2 ^ 63 ≤ infinityBits) :
    (Float.ofBits w).toBits = w := by
  have packed := @pack_unpack Format.binary64 w.toBitVec (by decide)
  rw [isNaNBits_of_le h, if_neg Bool.false_ne_true] at packed
  exact congrArg UInt64.ofBitVec packed

variable {bits : MagnitudeBits} {x : Float}

theorem toNat_toBits_floatOfBits (defined : bits ≤ infinityBits) (negative : Bool) :
    (floatOfBits negative bits).toBits.toNat = if negative then bits + signBit else bits := by
  have bound : bits ≤ 2047 * 2 ^ 52 := defined
  have sign : signBit = 2 ^ 63 := rfl
  have stored : (UInt64.ofNat (if negative then bits + signBit else bits)).toNat =
      if negative then bits + signBit else bits := by
    refine UInt64.toNat_ofNat_of_lt' ?_
    cases negative with
    | false => exact Nat.lt_of_le_of_lt bound (by decide)
    | true => exact Nat.lt_of_le_of_lt (Nat.add_le_add_right bound signBit) (by decide)
  have rest : (if negative then bits + signBit else bits) % 2 ^ 63 ≤ infinityBits := by
    rw [← sign]
    cases negative with
    | false => exact (Nat.mod_le bits signBit).trans defined
    | true => exact (Nat.add_mod_right bits signBit).trans_le ((Nat.mod_le _ _).trans defined)
  rw [floatOfBits, toBits_ofBits (by rwa [stored]), stored]

theorem magnitudeBits_floatOfBits (defined : bits ≤ infinityBits) (negative : Bool) :
    magnitudeBits (floatOfBits negative bits) = bits := by
  have small : bits < signBit := Nat.lt_of_le_of_lt defined (by decide)
  rw [magnitudeBits, toNat_toBits_floatOfBits defined]
  cases negative with
  | false => exact Nat.mod_eq_of_lt small
  | true => exact (Nat.add_mod_right bits signBit).trans (Nat.mod_eq_of_lt small)

theorem isNegative_floatOfBits (defined : bits ≤ infinityBits) (negative : Bool) :
    isNegative (floatOfBits negative bits) = negative := by
  have small : bits < signBit := Nat.lt_of_le_of_lt defined (by decide)
  rw [isNegative, toNat_toBits_floatOfBits defined]
  cases negative with
  | false => exact decide_eq_false (Nat.not_le_of_lt small)
  | true => exact decide_eq_true (Nat.le_add_left signBit bits)

theorem isFiniteFloat_floatOfBits (finite : bits < infinityBits) (negative : Bool) :
    isFiniteFloat (floatOfBits negative bits) = true := by
  rw [isFiniteFloat, magnitudeBits_floatOfBits (Nat.le_of_lt finite)]
  exact decide_eq_true finite

/-- A double that is a number is made of its sign and its magnitude. -/
theorem floatOfBits_magnitudeBits (finite : isFiniteFloat x = true) :
    floatOfBits (isNegative x) (magnitudeBits x) = x := by
  have defined : magnitudeBits x ≤ infinityBits := Nat.le_of_lt (of_decide_eq_true finite)
  have bound := x.toBits.toNat_lt
  refine Float.toBits_inj.mp (UInt64.toNat_inj.mp ?_)
  rw [toNat_toBits_floatOfBits defined, isNegative, magnitudeBits]
  by_cases negative : signBit ≤ x.toBits.toNat
  · have sign : signBit = 2 ^ 63 := rfl
    rw [decide_eq_true negative, if_pos rfl]
    rw [sign] at negative ⊢
    omega
  · rw [decide_eq_false negative, if_neg Bool.false_ne_true]
    exact Nat.mod_eq_of_lt (Nat.lt_of_not_le negative)

theorem toNat_packComponents (sign : Sign) (exponent : BitVec 11) (mantissa : BitVec 52) :
    (packComponents Format.binary64 sign exponent mantissa).toNat =
      2 ^ 63 * sign.toBitVec.toNat + (2 ^ 52 * exponent.toNat + mantissa.toNat) := by
  have joined : (packComponents Format.binary64 sign exponent mantissa).toNat =
      (sign.toBitVec ++ exponent ++ mantissa).toNat := rfl
  rw [joined, BitVec.toNat_append, BitVec.toNat_append,
    ← Nat.shiftLeft_add_eq_or_of_lt exponent.isLt, ← Nat.shiftLeft_add_eq_or_of_lt mantissa.isLt,
    Nat.shiftLeft_eq, Nat.shiftLeft_eq]
  omega

theorem toNat_toBitVec_neg (sign : Sign) :
    (-sign).toBitVec.toNat + sign.toBitVec.toNat = 1 := by
  cases sign <;> rfl

/-- The words of a value and of its opposite differ in their signs only. -/
theorem exists_components_neg {u : UnpackedFloat} (number : u ≠ .notANumber) :
    ∃ (sign : Sign) (exponent : BitVec 11) (mantissa : BitVec 52),
      pack Format.binary64 u = packComponents Format.binary64 sign exponent mantissa ∧
        pack Format.binary64 u.neg = packComponents Format.binary64 (-sign) exponent mantissa := by
  cases u with
  | notANumber => exact absurd rfl number
  | infinity sign => exact ⟨sign, _, _, rfl, rfl⟩
  | zero sign => exact ⟨sign, _, _, rfl, rfl⟩
  | finite sign mantissa exponent present =>
    simp only [pack, neg]
    split_ifs
    · exact ⟨sign, _, _, rfl, rfl⟩
    · exact ⟨sign, _, _, rfl, rfl⟩
    · exact ⟨sign, _, _, rfl, rfl⟩

/-- The opposite of a double has the other sign and the same magnitude, zero and infinity
included. -/
theorem bits_neg (defined : magnitudeBits x ≤ infinityBits) :
    isNegative (-x) = !isNegative x ∧ magnitudeBits (-x) = magnitudeBits x := by
  have word := isNaNBits_of_le (w := x.toBits.toBitVec) defined
  have packed := @pack_unpack Format.binary64 x.toBits.toBitVec (by decide)
  rw [word, if_neg Bool.false_ne_true] at packed
  have number : unpack Format.binary64 x.toBits.toBitVec ≠ .notANumber := by
    intro undefined
    rw [undefined] at packed
    rw [← packed] at word
    cases word.symm.trans isNaNBits_packedNaN
  obtain ⟨sign, exponent, mantissa, before, after⟩ := exists_components_neg number
  have here : x.toBits.toNat =
      2 ^ 63 * sign.toBitVec.toNat + (2 ^ 52 * exponent.toNat + mantissa.toNat) := by
    rw [← toNat_packComponents, ← before, packed]
    rfl
  have there : (-x).toBits.toNat =
      2 ^ 63 * (-sign).toBitVec.toNat + (2 ^ 52 * exponent.toNat + mantissa.toNat) := by
    rw [← toNat_packComponents, ← after]
    rfl
  have low := exponent.isLt
  have small := mantissa.isLt
  have flipped := toNat_toBitVec_neg sign
  have top : signBit = 2 ^ 63 := rfl
  rw [isNegative, isNegative, magnitudeBits, magnitudeBits, here, there, top]
  constructor
  · rw [← decide_not, decide_eq_decide]
    omega
  · rw [Nat.mul_add_mod, Nat.mul_add_mod]

theorem isFiniteFloat_neg (finite : isFiniteFloat x = true) : isFiniteFloat (-x) = true := by
  rw [isFiniteFloat, (bits_neg (Nat.le_of_lt (of_decide_eq_true finite))).2]
  exact finite

/-- The opposite of the opposite is the number itself, also where it is a zero. -/
theorem neg_neg_of_finite (finite : isFiniteFloat x = true) : -(-x) = x := by
  have once := bits_neg (Nat.le_of_lt (of_decide_eq_true finite))
  have opposite := isFiniteFloat_neg finite
  have twice := bits_neg (Nat.le_of_lt (of_decide_eq_true opposite))
  rw [← floatOfBits_magnitudeBits (isFiniteFloat_neg opposite), twice.1, twice.2, once.1, once.2,
    Bool.not_not, floatOfBits_magnitudeBits finite]

theorem unpack_of_isNaN (undefined : x.isNaN) :
    unpack Format.binary64 x.toBits.toBitVec = .notANumber := by
  have here : (unpack Format.binary64 x.toBits.toBitVec).isNaN = true := undefined
  cases unpacked : unpack Format.binary64 x.toBits.toBitVec with
  | notANumber => rfl
  | _ =>
    rw [unpacked] at here
    cases here

/-- There is one double only that is not a number. -/
theorem eq_of_isNaN {y : Float} (undefined : x.isNaN) (other : y.isNaN) : x = y := by
  have same := (unpack_of_isNaN undefined).trans (unpack_of_isNaN other).symm
  have bits := (unpack_inj_of_valid x.toModel.valid y.toModel.valid).mp same
  exact Float.toBits_inj.mp (UInt64.toBitVec_inj.mp bits)

end Calculator
