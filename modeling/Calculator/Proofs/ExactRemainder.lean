import Calculator.Number.Remainder
import Calculator.Proofs.Magnitudes

namespace Calculator

namespace Dyadic

/-- How many of a unit, which is not above its own, a magnitude has. -/
def count (d : Dyadic) (unit : Int) : Nat := d.mantissa * Nat.pow 2 (d.exponent - unit).toNat

variable {a b : Dyadic}

end Dyadic

/-- What is left of a finite double when another is taken from it as often as it fits. It keeps the
sign of the dividend, also where nothing is left, and no part of it is rounded off. -/
structure ExactRemainder (x y r : Float) : Prop where
  finite : isFiniteFloat r
  sign : isNegative r = isNegative x
  below : magnitude r < magnitude y
  whole : ∃ n : Nat, magnitude x = n * magnitude y + magnitude r

/-- What the remainder of two doubles is. An infinite divisor leaves the dividend as it is. From
what is not finite nothing can be taken, and a zero or what is not a number from nothing. -/
structure IsRemainder (x y r : Float) : Prop where
  finite : isFiniteFloat x → isFiniteFloat y → magnitudeBits y ≠ 0 → ExactRemainder x y r
  infinite : isFiniteFloat x → magnitudeBits y = infinityBits → r = x
  undefined : ¬isFiniteFloat x ∨ infinityBits < magnitudeBits y ∨ magnitudeBits y = 0 → r.isNaN

section Remainder

variable {x y r : Float}

/-- A quotient that leaves less than the divisor is not below another. -/
theorem quotient_le {d r s : ℚ} {m n : Nat} (below : r < d) (nonneg : 0 ≤ s) (divisor : 0 ≤ d)
    (same : m * d + r = n * d + s) : n ≤ m := by
  by_contra! more
  have taken : ((m + 1 : Nat) : ℚ) * d ≤ n * d :=
    mul_le_mul_of_nonneg_right (by exact_mod_cast more) divisor
  push_cast at taken
  linarith

theorem ExactRemainder.unique {s : Float} (first : ExactRemainder x y r)
    (second : ExactRemainder x y s) : r = s := by
  obtain ⟨m, whole⟩ := first.whole
  obtain ⟨n, whole'⟩ := second.whole
  have same := whole.symm.trans whole'
  have divisor := magnitude_nonneg y
  -- Each quotient leaves less than the divisor, so neither is below the other.
  have quotient : m = n := le_antisymm
    (quotient_le second.below (magnitude_nonneg r) divisor same.symm)
    (quotient_le first.below (magnitude_nonneg s) divisor same)
  subst quotient
  exact eq_of_magnitude first.finite second.finite (first.sign.trans second.sign.symm)
    (add_left_cancel same)

theorem IsRemainder.unique {s : Float} (first : IsRemainder x y r) (second : IsRemainder x y s) :
    r = s := by
  by_cases operands : ¬isFiniteFloat x ∨ infinityBits < magnitudeBits y ∨ magnitudeBits y = 0
  · exact eq_of_isNaN (first.undefined operands) (second.undefined operands)
  · push Not at operands
    obtain ⟨dividend, number, present⟩ := operands
    rcases number.lt_or_eq with finite | infinite
    · have divisor : isFiniteFloat y := decide_eq_true finite
      exact (first.finite dividend divisor present).unique (second.finite dividend divisor present)
    · rw [first.infinite dividend infinite, second.infinite dividend infinite]

end Remainder

end Calculator
