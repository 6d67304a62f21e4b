namespace Calculator

/-- The magnitude of a finite double: a whole number of units of a power of two. -/
structure Dyadic where
  mantissa : Nat
  exponent : Int
deriving DecidableEq

/-- Two to the power of 52: the mantissas of one binade are counted from here. -/
def binadeSize : Nat := 0x10000000000000

/-- The ratio `num / den` of two whole numbers. -/
structure Ratio where
  num : Nat
  den : Nat
deriving DecidableEq

/-- The ratio `n * base ^ exponent`. -/
def Ratio.scaled (n base : Nat) (exponent : Int) : Ratio :=
  if 0 ≤ exponent then ⟨n * base.pow exponent.toNat, 1⟩ else ⟨n, base.pow (-exponent).toNat⟩

/-- The bits of a double's magnitude, the sign left out, in the order of the magnitudes. -/
abbrev MagnitudeBits := Nat

/-- The bits of infinity, which are those of the first magnitude that is too large. -/
def infinityBits : MagnitudeBits := 0x7FF0000000000000

/-- The magnitude that bits below those of infinity stand for. The lowest two binades share the
unit `2 ^ -1074`; from there on the unit doubles with every binade. -/
def Dyadic.ofBits (bits : MagnitudeBits) : Dyadic :=
  if bits < binadeSize then ⟨bits, -1074⟩
  else ⟨bits % binadeSize + binadeSize, (bits / binadeSize : Nat) - 1075⟩

/-- A magnitude as a ratio. -/
def Dyadic.toRatio (d : Dyadic) : Ratio := .scaled d.mantissa 2 d.exponent

/-- The quotient rounded to the nearest whole number, a half to the even one. -/
def Ratio.roundHalfEven (r : Ratio) : Nat :=
  let floor := r.num / r.den
  let rest := 2 * (r.num % r.den)
  if rest < r.den then floor
  else if r.den < rest then floor + 1
  else floor + floor % 2

/-- The ratio counted in units of `base ^ exponent`. -/
def Ratio.inUnits (r : Ratio) (base : Nat) (exponent : Int) : Ratio :=
  if 0 ≤ exponent then ⟨r.num, r.den * base.pow exponent.toNat⟩
  else ⟨r.num * base.pow (-exponent).toNat, r.den⟩

/-- The exponent of the unit in which doubles around `r` are counted: the least one in which `r`
stays below two binades, and no less than -1074. -/
def Ratio.unitExponent (r : Ratio) : Int :=
  let low : Int := max ((r.num.log2 : Int) - r.den.log2 - 53) (-1074)
  let scaled := r.inUnits 2 low
  if scaled.num / scaled.den < 2 * binadeSize then low else low + 1

/-- The bits of the double nearest to a ratio; of two equally near ones, that with the even
mantissa. -/
def Ratio.toBits (r : Ratio) : MagnitudeBits :=
  let exponent := r.unitExponent
  let units := (r.inUnits 2 exponent).roundHalfEven
  if r.num = 0 then 0
  else min ((exponent + 1074).toNat * binadeSize + units) infinityBits

/-- The bit of the sign, above those of the magnitude. -/
def signBit : Nat := 0x8000000000000000

/-- Whether a double carries the minus sign. -/
def isNegative (x : Float) : Bool := signBit ≤ x.toBits.toNat

/-- The bits of a double without its sign. -/
def magnitudeBits (x : Float) : MagnitudeBits := x.toBits.toNat % signBit

/-- The double with the given sign and magnitude. -/
def floatOfBits (negative : Bool) (bits : MagnitudeBits) : Float :=
  .ofBits (.ofNat (if negative then bits + signBit else bits))

/-- Whether a double is a number: neither infinite nor the result of an undefined operation. -/
def isFiniteFloat (x : Float) : Bool := magnitudeBits x < infinityBits

end Calculator
