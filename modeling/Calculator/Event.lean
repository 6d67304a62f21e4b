import Calculator.SymbolTable
import Calculator.Token

namespace Calculator

/-- How a session comes to its end. -/
inductive Ending where
  | quit
  | endOfInput
deriving DecidableEq

/-- How a session ended, and what it did on the way. -/
structure Outcome where
  ending : Ending
  evaluated : Nat
  failed : Nat
deriving DecidableEq

/-- What can be told of a session while it works. Nothing is decided by an event: they are an
account for the reader of the log. -/
inductive Event where
  | token (token : Token)
  | tokenAgain (token : Token)
  | pushedBack (token : Token)
  | operand (token : Token)
  | declared (name : String) (value : Float)
  | skippedHeld (target : Char)
  | skipped (target : Char) (count : Nat)
  | skippedToEnd (count : Nat)
  | evaluated (value : Float)
  | failed (fault : Fault)
  | cutShort
  | finished (outcome : Outcome)
  | fileFinished (outcome : Outcome) (file : String)
  | variablesAtExit (table : SymbolTable)
deriving DecidableEq

end Calculator
