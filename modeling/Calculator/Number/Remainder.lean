import Calculator.Number.Decimal

namespace Calculator

/-- What is left of one finite magnitude after the other has been taken from it as often as it
fits. Both are counted in the finer of their units, so the remainder is exact. -/
def magnitudeRemainder (x y : MagnitudeBits) : MagnitudeBits :=
  let a := Dyadic.ofBits x
  let b := Dyadic.ofBits y
  let unit := min a.exponent b.exponent
  let dividend := a.mantissa * Nat.pow 2 (a.exponent - unit).toNat
  let divisor := b.mantissa * Nat.pow 2 (b.exponent - unit).toNat
  (Ratio.scaled (dividend % divisor) 2 unit).toBits

/-- The remainder of a division whose quotient is cut to a whole number. It has the sign of the
dividend; nothing is left to define when the dividend is infinite or the divisor is zero. -/
def remainder (x y : Float) : Float :=
  let a := magnitudeBits x
  let b := magnitudeBits y
  if infinityBits ≤ a ∨ infinityBits < b ∨ b = 0 then notANumber
  else if b = infinityBits then x
  else floatOfBits (isNegative x) (magnitudeRemainder a b)

end Calculator
