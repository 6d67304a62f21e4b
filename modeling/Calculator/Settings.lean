import Calculator.Quoted
import Calculator.Unicode.Alphanumeric
import Calculator.Unicode.Whitespace

namespace Calculator

/-- The parts of the language that a user can choose. -/
structure Dialect where
  separator : Char := ';'
  declareWord : String := "let"
  quitWord : String := "quit"
deriving DecidableEq

/-- All that a user can choose: the dialect, what is printed before input and before results, and
whether `pi` and `e` are known from the start. -/
structure Settings where
  dialect : Dialect := {}
  prompt : String := "> "
  resultMarker : String := "= "
  withConstants : Bool := true
deriving DecidableEq

/-- What makes a dialect unusable. -/
inductive DialectFault where
  | badSeparator (c : Char)
  | badKeyword (word : String)
  | sameKeywords (word : String)
deriving DecidableEq

/-- Whether a character already has a meaning to the calculator that no separator may take. -/
def isReserved (c : Char) : Bool :=
  ['(', ')', '+', '-', '*', '/', '%', '=', '.'].contains c

/-- Whether a text is a letter followed by letters and numbers. -/
def isWord (text : List Char) : Bool :=
  match text with
  | [] => false
  | first :: rest => isAlphabetic first && rest.all isAlphanumeric

/-- Accepts a dialect whose separator has no other meaning and whose two keywords are different
words; otherwise tells the first thing that is wrong. -/
def Dialect.check (dialect : Dialect) : Except DialectFault Unit :=
  if isAlphanumeric dialect.separator || isWhitespace dialect.separator ||
      isReserved dialect.separator then
    .error (.badSeparator dialect.separator)
  else if !isWord dialect.declareWord.toList then .error (.badKeyword dialect.declareWord)
  else if !isWord dialect.quitWord.toList then .error (.badKeyword dialect.quitWord)
  else if dialect.declareWord = dialect.quitWord then .error (.sameKeywords dialect.quitWord)
  else .ok ()

/-- The text that reports a fault of a dialect. -/
def DialectFault.message : DialectFault → String
  | .badSeparator c =>
    "separator " ++ quotedChar c ++ " clashes with an operator, digit, letter or whitespace"
  | .badKeyword word => "keyword " ++ quotedText word ++ " is not a word"
  | .sameKeywords word => "declaration and quit keywords are both " ++ quotedText word

/-- The name of a fault of a dialect. -/
def DialectFault.label : DialectFault → String
  | .badSeparator _ => "BadSeparator"
  | .badKeyword _ => "BadKeyword"
  | .sameKeywords _ => "SameKeywords"

/-- The identifier of a fault of a dialect in a diagnostic report. -/
def DialectFault.code : DialectFault → String
  | .badSeparator _ => "config::separator"
  | .badKeyword _ | .sameKeywords _ => "config::keyword"

/-- The advice that goes with a fault of a dialect. -/
def DialectFault.help? : DialectFault → Option String
  | .badSeparator _ => some "pick a punctuation character such as ';'"
  | .badKeyword _ => some "keywords start with a letter and contain only letters and digits"
  | .sameKeywords _ => none

end Calculator
