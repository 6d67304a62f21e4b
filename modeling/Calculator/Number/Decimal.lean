import Calculator.Number.Binary64

namespace Calculator

/-- The decimal `digits * 10 ^ exponent`. -/
structure Decimal where
  digits : Nat
  exponent : Int
deriving DecidableEq

/-- A decimal as a ratio. -/
def Decimal.toRatio (d : Decimal) : Ratio := .scaled d.digits 10 d.exponent

/-- The bits of the double nearest to a decimal. Decimals far outside the range of doubles are
settled by their exponent, so no power of ten is built that the answer does not need. -/
def Decimal.toBits (d : Decimal) : MagnitudeBits :=
  if d.digits = 0 then 0
  else if 310 < d.exponent then infinityBits
  else if d.exponent < -(d.digits.log2 + 400 : Int) then 0
  else d.toRatio.toBits

/-- The number that decimal digits spell. -/
def digitsValue (digits : List Char) : Nat :=
  digits.foldl (fun n c => n * 10 + (c.toNat - '0'.toNat)) 0

/-- Reads the exponent after a marker: digits behind an optional sign. -/
def exponentValue? (text : List Char) : Option Int :=
  let (negative, digits) := match text with
    | '-' :: rest => (true, rest)
    | '+' :: rest => (false, rest)
    | rest => (false, rest)
  if digits.isEmpty || !digits.all Char.isDigit then none
  else some (if negative then -digitsValue digits else digitsValue digits)

/-- Reads what may follow a mantissa: nothing, or `e` or `E` and an exponent. -/
def exponentPart? : List Char → Option Int
  | [] => some 0
  | marker :: rest => if marker = 'e' ∨ marker = 'E' then exponentValue? rest else none

/-- Reads `digits [. digits] [(e|E) [+|-] digits]` with at least one digit before the exponent. -/
def Decimal.parse? (text : List Char) : Option Decimal :=
  let whole := text.takeWhile Char.isDigit
  let (fraction, rest) := match text.dropWhile Char.isDigit with
    | '.' :: rest => (rest.takeWhile Char.isDigit, rest.dropWhile Char.isDigit)
    | rest => ([], rest)
  if whole.isEmpty && fraction.isEmpty then none
  else (exponentPart? rest).map fun exponent =>
    ⟨digitsValue (whole ++ fraction), exponent - fraction.length⟩

/-- The double that an unsigned decimal literal stands for: the nearest one, infinite when the
literal is out of range. -/
def parseUnsigned? (text : List Char) : Option Float :=
  (Decimal.parse? text).map fun d => floatOfBits false d.toBits

/-- The not-a-number double. -/
def notANumber : Float := .ofBits 0x7FF8000000000000

/-- Reads a decimal with an optional sign, or one of the words for the doubles that no decimal
reaches. -/
def parseFloat? (text : List Char) : Option Float :=
  let (negative, rest) := match text with
    | '-' :: rest => (true, rest)
    | '+' :: rest => (false, rest)
    | rest => (false, rest)
  let word := rest.map Char.toLower
  if word = "inf".toList ∨ word = "infinity".toList then some (floatOfBits negative infinityBits)
  else if word = "nan".toList then some notANumber
  else (Decimal.parse? rest).map fun d => floatOfBits negative d.toBits

end Calculator
