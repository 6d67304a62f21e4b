import Calculator.Number.Remainder
import Calculator.Token
import Calculator.Fault

namespace Calculator

/-- The operations that join terms. -/
inductive SumOperator where
  | plus
  | minus
deriving DecidableEq

/-- The operations that join the factors of a term. -/
inductive ProductOperator where
  | times
  | over
  | modulo
deriving DecidableEq

/-- The operation between terms that a token stands for. -/
def SumOperator.ofToken? : Token → Option SumOperator
  | .punct .plus => some .plus
  | .punct .minus => some .minus
  | _ => none

/-- The operation between factors that a token stands for. -/
def ProductOperator.ofToken? : Token → Option ProductOperator
  | .punct .star => some .times
  | .punct .slash => some .over
  | .punct .percent => some .modulo
  | _ => none

def SumOperator.apply (operator : SumOperator) (left right : Float) : Float :=
  match operator with
  | .plus => left + right
  | .minus => left - right

/-- A divisor that equals zero, of either sign, has no quotient and no remainder. -/
def ProductOperator.apply (operator : ProductOperator) (left right : Float) : Except Fault Float :=
  match operator with
  | .times => .ok (left * right)
  | .over =>
    if right == 0 then .error (.arithmetic .divisionByZero) else .ok (left / right)
  | .modulo =>
    if right == 0 then .error (.arithmetic .divisionByZero) else .ok (remainder left right)

end Calculator
