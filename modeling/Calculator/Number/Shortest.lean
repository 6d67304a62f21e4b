import Calculator.Number.Decimal

namespace Calculator

/-- The whole value of a magnitude as a decimal. -/
def Dyadic.toDecimal (d : Dyadic) : Decimal :=
  if 0 ≤ d.exponent then ⟨d.mantissa * Nat.pow 2 d.exponent.toNat, 0⟩
  else ⟨d.mantissa * Nat.pow 5 (-d.exponent).toNat, d.exponent⟩

/-- The multiple of `10 ^ exponent` next to a magnitude that reads back as that magnitude, if
there is one; of two, the nearer, and the upper one when both are equally near. -/
def neighbourOnGrid? (bits : MagnitudeBits) (exponent : Int) : Option Decimal :=
  let scaled := (Dyadic.ofBits bits).toRatio.inUnits 10 exponent
  let below : Decimal := ⟨scaled.num / scaled.den, exponent⟩
  let above : Decimal := ⟨scaled.num / scaled.den + 1, exponent⟩
  let nearerBelow := 2 * (scaled.num % scaled.den) < scaled.den
  if below.toBits = bits ∧ (nearerBelow ∨ above.toBits ≠ bits) then some below
  else if above.toBits = bits then some above
  else none

/-- An exponent of ten above that of the first digit of a magnitude. -/
def Ratio.decimalExponentAbove (r : Ratio) : Int :=
  ((r.num.log2 : Int) - r.den.log2 + 1) * 30103 / 100000 + 1

/-- The decimal with the fewest digits that reads back as a magnitude: the neighbour on the
coarsest decimal grid that has one. Seventeen digits are always enough, and the whole value
stands in for a search that finds none. -/
def shortestDecimal (bits : MagnitudeBits) : Decimal :=
  let value := Dyadic.ofBits bits
  let top := value.toRatio.decimalExponentAbove
  ((List.range 20).findSome? fun (k : Nat) => neighbourOnGrid? bits (top - k)).getD value.toDecimal

end Calculator
