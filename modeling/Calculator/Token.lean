import Calculator.Number.Text
import Calculator.Quoted
import Calculator.Symbol

namespace Calculator

/-- The two words that are not names: the one that starts a declaration and the one that ends a
session. -/
inductive Keyword where
  | declare
  | quit
deriving DecidableEq

/-- A lexical unit of a statement. -/
inductive Token where
  | punct (symbol : Symbol)
  | number (value : Float)
  | keyword (word : Keyword)
  | identifier (name : String)
deriving DecidableEq

/-- The name of a keyword in a token listing. -/
def Keyword.name : Keyword → String
  | .declare => "Let"
  | .quit => "Quit"

/-- A token in a token listing or a log line. -/
def Token.listing : Token → String
  | .punct symbol => "Punct(" ++ symbol.name ++ ")"
  | .number value => "Number(" ++ floatListing value ++ ")"
  | .keyword word => "Keyword(" ++ word.name ++ ")"
  | .identifier name => "Identifier(" ++ quotedText name ++ ")"

end Calculator
