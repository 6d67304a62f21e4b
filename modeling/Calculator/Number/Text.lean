import Calculator.Number.Shortest

namespace Calculator

/-- A decimal written in full: its digits, with zeros and a point where they are needed, and no
exponent. -/
def Decimal.positional (d : Decimal) : List Char :=
  let digits := Nat.toDigits 10 d.digits
  if 0 ≤ d.exponent then digits ++ List.replicate d.exponent.toNat '0'
  else
    let places := (-d.exponent).toNat
    let padded := List.replicate (places + 1 - digits.length) '0' ++ digits
    padded.take (padded.length - places) ++ '.' :: padded.drop (padded.length - places)

/-- The power of ten of a decimal's first digit. -/
def Decimal.leadingExponent (d : Decimal) : Int :=
  (Nat.toDigits 10 d.digits).length - 1 + d.exponent

/-- A decimal written with one digit before the point and a power of ten after it. -/
def Decimal.scientific (d : Decimal) : List Char :=
  let mantissa := match Nat.toDigits 10 d.digits with
    | first :: second :: rest => first :: '.' :: second :: rest
    | digits => digits
  mantissa ++ 'e' :: (toString d.leadingExponent).toList

/-- A decimal written in full, with a fraction even where it is zero. -/
def Decimal.positionalWithFraction (d : Decimal) : List Char :=
  if 0 ≤ d.exponent then d.positional ++ ['.', '0'] else d.positional

/-- A magnitude as a result shows it. -/
def magnitudeText (bits : MagnitudeBits) : List Char :=
  if bits = 0 then ['0'] else (shortestDecimal bits).positional

/-- A magnitude as a token listing shows it: always with a point or an exponent, the latter below
`10 ^ -4` and from `10 ^ 16` on. -/
def magnitudeListing (bits : MagnitudeBits) : List Char :=
  if bits = 0 then ['0', '.', '0']
  else
    let d := shortestDecimal bits
    if d.leadingExponent < -4 ∨ 16 ≤ d.leadingExponent then d.scientific
    else d.positionalWithFraction

/-- A double written with a given way to write magnitudes. -/
def signedText (magnitude : MagnitudeBits → List Char) (x : Float) : String :=
  let bits := magnitudeBits x
  if infinityBits < bits then "NaN"
  else
    let text := if bits = infinityBits then "inf".toList else magnitude bits
    String.ofList (if isNegative x then '-' :: text else text)

/-- The text of a double as a result: the fewest digits that read back, and no exponent. -/
def floatText (x : Float) : String := signedText magnitudeText x

/-- The text of a double in a token listing or a log line. -/
def floatListing (x : Float) : String := signedText magnitudeListing x

end Calculator
