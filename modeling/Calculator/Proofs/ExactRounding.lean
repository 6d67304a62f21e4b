import Calculator.Number.Shortest
import Mathlib.Algebra.Order.Field.Rat
import Mathlib.Data.Rat.Cast.Order
import Mathlib.Tactic.Linarith
import Mathlib.Tactic.Positivity
import Mathlib.Tactic.FieldSimp
import Mathlib.Algebra.Order.Field.Power

namespace Calculator

/-- The number that a ratio is. -/
def Ratio.value (r : Ratio) : ℚ := r.num / r.den

def Dyadic.value (d : Dyadic) : ℚ := d.mantissa * 2 ^ d.exponent

namespace Ratio

variable {r : Ratio}

theorem den_scaled_pos {base : Nat} (pos : 0 < base) (n : Nat) (exponent : Int) :
    0 < (scaled n base exponent).den := by
  unfold scaled
  split
  next => exact Nat.one_pos
  next => exact Nat.pow_pos pos

theorem den_inUnits_pos {base : Nat} (pos : 0 < base) (den : 0 < r.den) (exponent : Int) :
    0 < (r.inUnits base exponent).den := by
  unfold inUnits
  split
  next => exact Nat.mul_pos den (Nat.pow_pos pos)
  next => exact den

theorem value_scaled {base : Nat} (n : Nat) (exponent : Int) :
    (scaled n base exponent).value = n * (base : ℚ) ^ exponent := by
  unfold scaled value
  split
  next whole =>
    obtain ⟨k, rfl⟩ := Int.eq_ofNat_of_zero_le whole
    simp
  next negative =>
    obtain ⟨k, hk⟩ := Int.eq_ofNat_of_zero_le (a := -exponent) (by omega)
    obtain rfl : exponent = -k := by omega
    simp [div_eq_mul_inv]

theorem value_inUnits (r : Ratio) (base : Nat) (exponent : Int) :
    (r.inUnits base exponent).value = r.value / (base : ℚ) ^ exponent := by
  unfold inUnits value
  split
  next whole =>
    obtain ⟨k, rfl⟩ := Int.eq_ofNat_of_zero_le whole
    simp [div_div]
  next negative =>
    obtain ⟨k, hk⟩ := Int.eq_ofNat_of_zero_le (a := -exponent) (by omega)
    obtain rfl : exponent = -k := by omega
    simp [mul_div_right_comm]

theorem div_lt_iff (den : 0 < r.den) (k : Nat) : r.num / r.den < k ↔ r.value < k := by
  have pos : (0 : ℚ) < r.den := by exact_mod_cast den
  rw [Nat.div_lt_iff_lt_mul den, value, div_lt_iff₀ pos]
  exact_mod_cast Iff.rfl

/-- A whole number is its own nearest one. -/
theorem roundHalfEven_of_value (den : 0 < r.den) {m : Nat} (whole : r.value = m) :
    r.roundHalfEven = m := by
  have pos : (0 : ℚ) < r.den := by exact_mod_cast den
  have num : r.num = m * r.den := by
    rw [value, div_eq_iff pos.ne'] at whole
    exact_mod_cast whole
  have floor : r.num / r.den = m := by rw [num, Nat.mul_div_cancel _ den]
  have rest : r.num % r.den = 0 := by rw [num, Nat.mul_mod_left]
  simp only [roundHalfEven, floor, rest, Nat.mul_zero, den, ↓reduceIte]

/-- A ratio lies between two powers of two that the lengths of its terms tell. -/
theorem value_bounds (num : 0 < r.num) (den : 0 < r.den) :
    (2 : ℚ) ^ ((r.num.log2 : Int) - r.den.log2 - 1) < r.value ∧
      r.value < 2 ^ ((r.num.log2 : Int) - r.den.log2 + 1) := by
  have pos : (0 : ℚ) < r.den := by exact_mod_cast den
  have numLow : (2 : ℚ) ^ r.num.log2 ≤ r.num := by exact_mod_cast Nat.log2_self_le num.ne'
  have numHigh : (r.num : ℚ) < 2 ^ (r.num.log2 + 1) := by exact_mod_cast Nat.lt_log2_self
  have denLow : (2 : ℚ) ^ r.den.log2 ≤ r.den := by exact_mod_cast Nat.log2_self_le den.ne'
  have denHigh : (r.den : ℚ) < 2 ^ (r.den.log2 + 1) := by exact_mod_cast Nat.lt_log2_self
  rw [value, lt_div_iff₀ pos, div_lt_iff₀ pos]
  constructor
  · calc (2 : ℚ) ^ ((r.num.log2 : Int) - r.den.log2 - 1) * r.den
        < 2 ^ ((r.num.log2 : Int) - r.den.log2 - 1) * 2 ^ (r.den.log2 + 1) := by gcongr
      _ = 2 ^ r.num.log2 := by
        rw [← zpow_natCast, ← zpow_natCast, ← zpow_add₀ two_ne_zero]
        congr 1
        omega
      _ ≤ r.num := numLow
  · calc (r.num : ℚ) < 2 ^ (r.num.log2 + 1) := numHigh
      _ = 2 ^ ((r.num.log2 : Int) - r.den.log2 + 1) * 2 ^ r.den.log2 := by
        rw [← zpow_natCast, ← zpow_natCast, ← zpow_add₀ two_ne_zero]
        congr 1
        omega
      _ ≤ 2 ^ ((r.num.log2 : Int) - r.den.log2 + 1) * r.den := by gcongr

theorem inUnits_lt_iff (den : 0 < r.den) (exponent : Int) :
    (r.inUnits 2 exponent).num / (r.inUnits 2 exponent).den < 2 * binadeSize ↔
      r.value < 2 ^ (exponent + 53) := by
  have size : ((2 * binadeSize : Nat) : ℚ) = 2 ^ (53 : Int) := by norm_num [binadeSize]
  have pos : (0 : ℚ) < 2 ^ exponent := by positivity
  rw [div_lt_iff (den_inUnits_pos Nat.two_pos den exponent), value_inUnits, size,
    Nat.cast_ofNat, div_lt_iff₀ pos, ← zpow_add₀ two_ne_zero, add_comm]

/-- The unit of a ratio is the one, not below the least, in which it lies in the upper of the two
lowest binades, or that the least one is. -/
theorem unitExponent_of_value (num : 0 < r.num) (den : 0 < r.den) {exponent : Int}
    (least : -1074 ≤ exponent) (above : exponent = -1074 ∨ 2 ^ (exponent + 52) ≤ r.value)
    (below : r.value < 2 ^ (exponent + 53)) : r.unitExponent = exponent := by
  obtain ⟨low, high⟩ := value_bounds num den
  generalize cut : (r.num.log2 : Int) - r.den.log2 = length at low high
  have lower := (zpow_lt_zpow_iff_right₀ one_lt_two).mp (low.trans below)
  have upper : exponent = -1074 ∨ exponent + 52 < length + 1 :=
    above.imp_right fun above => (zpow_lt_zpow_iff_right₀ one_lt_two).mp (above.trans_lt high)
  -- The lengths leave two units, and the lower one is taken if the ratio fits it.
  unfold unitExponent
  dsimp only
  rw [cut]
  split
  next fits =>
    rw [inUnits_lt_iff den] at fits
    rcases above with rfl | above
    · omega
    · have := (zpow_lt_zpow_iff_right₀ one_lt_two).mp (above.trans_lt fits)
      omega
  next wide =>
    rw [inUnits_lt_iff den, not_lt] at wide
    have := (zpow_lt_zpow_iff_right₀ one_lt_two).mp (wide.trans_lt below)
    omega

end Ratio

namespace Dyadic

variable {bits : MagnitudeBits}

/-- Bits of a number stand for a whole number of units that belongs to its binade. -/
theorem ofBits_cases (bits : Nat) :
    ∃ m : Nat, ∃ e : Int, ofBits bits = ⟨m, e⟩ ∧ -1074 ≤ e ∧ m < 2 * binadeSize ∧
      (e = -1074 ∨ binadeSize ≤ m) ∧ (e + 1074).toNat * binadeSize + m = bits := by
  have size : 0 < binadeSize := by decide
  by_cases low : bits < binadeSize
  · exact ⟨bits, -1074, if_pos low, le_rfl, by omega, Or.inl rfl, by simp⟩
  · have rest := Nat.mod_lt bits size
    have whole := Nat.div_add_mod bits binadeSize
    have one : 1 ≤ bits / binadeSize := (Nat.one_le_div_iff size).mpr (Nat.le_of_not_lt low)
    have units : ((bits / binadeSize : Nat) - 1075 + 1074 : Int).toNat = bits / binadeSize - 1 := by
      omega
    refine ⟨_, _, if_neg low, by omega, by omega, Or.inr (by omega), ?_⟩
    rw [units, Nat.sub_mul]
    rw [Nat.mul_comm] at whole
    have : 1 * binadeSize ≤ bits / binadeSize * binadeSize := Nat.mul_le_mul_right _ one
    omega

end Dyadic

/-- A ratio that is the magnitude of some bits rounds to these bits. -/
theorem Ratio.toBits_of_value {r : Ratio} {bits : MagnitudeBits} (finite : bits < infinityBits)
    (den : 0 < r.den) (same : r.value = (Dyadic.ofBits bits).value) : r.toBits = bits := by
  obtain ⟨m, e, magnitude, least, below, above, whole⟩ := Dyadic.ofBits_cases bits
  have unit : (0 : ℚ) < 2 ^ e := by positivity
  have size : (binadeSize : ℚ) = 2 ^ (52 : Int) := by norm_num [binadeSize]
  rw [magnitude, Dyadic.value] at same
  have scaled : (r.inUnits 2 e).value = m := by
    rw [value_inUnits, same, Nat.cast_ofNat, mul_div_cancel_right₀ _ unit.ne']
  have units := roundHalfEven_of_value (den_inUnits_pos Nat.two_pos den e) scaled
  -- Zero has no bits to lie in a binade with, and is its own case of the definition.
  by_cases empty : r.num = 0
  · have zero : r.value = 0 := by rw [value, empty, Nat.cast_zero, zero_div]
    have m_zero : m = 0 := by
      rw [zero] at same
      exact_mod_cast (mul_eq_zero.mp same.symm).resolve_right unit.ne'
    have lowest : e = -1074 := by
      refine above.resolve_right fun above => ?_
      rw [m_zero] at above
      exact absurd above (by decide)
    rw [m_zero, lowest] at whole
    rw [toBits]
    simp only [empty, ↓reduceIte]
    exact whole
  · have exponent : r.unitExponent = e := by
      refine unitExponent_of_value (Nat.pos_of_ne_zero empty) den least ?_ ?_
      · refine above.imp_right fun above => ?_
        rw [same, zpow_add₀ two_ne_zero, mul_comm, ← size]
        gcongr
      · have below : (m : ℚ) < 2 ^ (53 : Int) := by
          have cast : ((m : Nat) : ℚ) < (2 * binadeSize : Nat) := by exact_mod_cast below
          refine cast.trans_eq ?_
          norm_num [binadeSize]
        rw [same, zpow_add₀ two_ne_zero, mul_comm]
        gcongr
    rw [toBits]
    simp only [empty, exponent, units, whole, ↓reduceIte]
    exact Nat.min_eq_left finite.le

namespace Decimal

variable {d : Decimal} {bits : MagnitudeBits}

theorem den_toRatio_pos (d : Decimal) : 0 < d.toRatio.den :=
  Ratio.den_scaled_pos (by decide) d.digits d.exponent

theorem value_toRatio (d : Decimal) : d.toRatio.value = d.digits * (10 : ℚ) ^ d.exponent :=
  Ratio.value_scaled d.digits d.exponent

theorem toBits_of_near (present : d.digits ≠ 0) (small : d.exponent ≤ 310)
    (large : -(d.digits.log2 + 400 : Int) ≤ d.exponent) : d.toBits = d.toRatio.toBits := by
  rw [toBits, if_neg present, if_neg (by omega), if_neg (by omega)]

/-- The decimal of no digits is zero, and so is its ratio. -/
theorem toBits_of_zero (zero : d.digits = 0) : d.toBits = d.toRatio.toBits := by
  have num : d.toRatio.num = 0 := by
    unfold toRatio Ratio.scaled
    rw [zero]
    split
    next => exact Nat.zero_mul _
    next => rfl
  rw [toBits, if_pos zero, Ratio.toBits]
  exact (if_pos num).symm

end Decimal

namespace Dyadic

theorem value_toDecimal (d : Dyadic) : d.toDecimal.toRatio.value = d.value := by
  rw [Decimal.value_toRatio]
  unfold toDecimal value
  split
  next whole =>
    obtain ⟨k, hk⟩ := Int.eq_ofNat_of_zero_le whole
    simp [hk]
  next negative =>
    obtain ⟨k, hk⟩ := Int.eq_ofNat_of_zero_le (a := -d.exponent) (by omega)
    have exponent : d.exponent = -k := by omega
    have ten : (10 : ℚ) ^ k = 2 ^ k * 5 ^ k := by rw [← mul_pow]; norm_num
    simp only [exponent, neg_neg, Int.toNat_natCast, zpow_neg, zpow_natCast, ten, Nat.pow_eq,
      Nat.cast_mul, Nat.cast_pow, Nat.cast_ofNat]
    field_simp

/-- The whole value of a magnitude is not far outside the range of doubles. -/
theorem toDecimal_near (d : Dyadic) (present : d.toDecimal.digits ≠ 0) :
    d.toDecimal.exponent ≤ 310 ∧
      -(d.toDecimal.digits.log2 + 400 : Int) ≤ d.toDecimal.exponent := by
  unfold toDecimal at *
  split at present
  next whole =>
    rw [if_pos whole]
    dsimp only
    omega
  next negative =>
    rw [if_neg negative]
    dsimp only at present ⊢
    obtain ⟨k, hk⟩ := Int.eq_ofNat_of_zero_le (a := -d.exponent) (by omega)
    rw [hk, Int.toNat_natCast] at present ⊢
    have mantissa : 0 < d.mantissa := Nat.pos_of_ne_zero (left_ne_zero_of_mul present)
    have digits : 2 * k ≤ (d.mantissa * Nat.pow 5 k).log2 := by
      rw [Nat.le_log2 present, Nat.pow_mul]
      calc 4 ^ k ≤ 5 ^ k := Nat.pow_le_pow_left (by decide) k
        _ ≤ d.mantissa * 5 ^ k := Nat.le_mul_of_pos_left _ mantissa
    omega

theorem toBits_toDecimal {bits : MagnitudeBits} (finite : bits < infinityBits) :
    (ofBits bits).toDecimal.toBits = bits := by
  have rounds := Ratio.toBits_of_value finite (Decimal.den_toRatio_pos _)
    (Dyadic.value_toDecimal (ofBits bits))
  by_cases zero : (ofBits bits).toDecimal.digits = 0
  · rw [Decimal.toBits_of_zero zero, rounds]
  · obtain ⟨small, large⟩ := toDecimal_near (ofBits bits) zero
    rw [Decimal.toBits_of_near zero small large, rounds]

end Dyadic

/-- The shortest decimal of a magnitude reads back as that magnitude. -/
theorem toBits_shortestDecimal {bits : MagnitudeBits} (finite : bits < infinityBits) :
    (shortestDecimal bits).toBits = bits := by
  unfold shortestDecimal
  dsimp only
  cases found : (List.range 20).findSome? fun (k : Nat) => neighbourOnGrid? bits
      ((Dyadic.ofBits bits).toRatio.decimalExponentAbove - k) with
  | none => exact Dyadic.toBits_toDecimal finite
  | some d =>
    obtain ⟨k, _, here⟩ := List.exists_of_findSome?_eq_some found
    unfold neighbourOnGrid? at here
    dsimp only at here
    split at here
    next below =>
      cases here
      exact below.1
    next =>
      split at here
      next above =>
        cases here
        exact above
      next => cases here

end Calculator
