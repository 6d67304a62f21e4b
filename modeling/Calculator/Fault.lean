namespace Calculator

/-- Why a text has no token where one is looked for. A cause that is `worded` is put into words by
the one who reports it, here and in the other classes of faults. -/
inductive LexicalFault where
  | badToken (c : Char)
  | noDigits (literal : String)
  | outOfRange (literal : String)
  | malformed (literal : String)
  | worded (text : String)
deriving DecidableEq

/-- What the grammar asked for when another token came. -/
inductive GrammarFault where
  | nameExpected
  | equalExpected
  | closingExpected
  | primaryExpected
  | worded (text : String)
deriving DecidableEq

/-- What is wrong with the use of a name. -/
inductive NameFault where
  | undefinedName
  | undefinedVariable
  | declaredTwice
deriving DecidableEq

/-- An operation that has no value. -/
inductive ArithmeticFault where
  | divisionByZero
  | worded (text : String)
deriving DecidableEq

/-- A broken contract between the calculator's own parts. -/
inductive InternalFault where
  | slotTaken
  | worded (text : String)
deriving DecidableEq

/-- Everything that can keep a statement from having a value. -/
inductive Fault where
  | lexical (cause : LexicalFault)
  | grammar (cause : GrammarFault)
  | name (cause : NameFault) (subject : String)
  | arithmetic (cause : ArithmeticFault)
  | internal (cause : InternalFault)
  | endOfInput
  | device (text : String)
deriving DecidableEq

/-- The class of a fault. -/
inductive FaultKind where
  | lexical
  | grammar
  | name
  | arithmetic
  | internal
  | endOfInput
  | device
deriving DecidableEq

def Fault.kind : Fault → FaultKind
  | .lexical _ => .lexical
  | .grammar _ => .grammar
  | .name _ _ => .name
  | .arithmetic _ => .arithmetic
  | .internal _ => .internal
  | .endOfInput => .endOfInput
  | .device _ => .device

/-- The name of a class of faults in a log line. -/
def FaultKind.label : FaultKind → String
  | .lexical => "Lex"
  | .grammar => "Syntax"
  | .name => "Name"
  | .arithmetic => "Arithmetic"
  | .internal => "Internal"
  | .endOfInput => "Eof"
  | .device => "Io"

/-- Whether a session reports faults of this class and goes on behind the next separator. -/
def FaultKind.recoverable : FaultKind → Bool
  | .lexical | .grammar | .name | .arithmetic => true
  | .internal | .endOfInput | .device => false

def Fault.recoverable (fault : Fault) : Bool := fault.kind.recoverable

/-- The identifier of a class of faults in a diagnostic report. -/
def FaultKind.code : FaultKind → String
  | .lexical => "calc::lex"
  | .grammar => "calc::syntax"
  | .name => "calc::name"
  | .arithmetic => "calc::arithmetic"
  | .internal => "calc::internal"
  | .endOfInput => "calc::eof"
  | .device => "calc::io"

/-- The advice that goes with a class of faults. -/
def FaultKind.help? : FaultKind → Option String
  | .internal => some "this is a bug in the calculator, not in the input"
  | _ => none

def LexicalFault.message : LexicalFault → String
  | .badToken c => "Bad token '" ++ c.toString ++ "'"
  | .noDigits literal => "Bad number '" ++ literal ++ "'"
  | .outOfRange literal => "Bad number '" ++ literal ++ "': out of range"
  | .malformed literal => "Bad number '" ++ literal ++ "': invalid float literal"
  | .worded text => text

def GrammarFault.message : GrammarFault → String
  | .nameExpected => "name expected in declaration"
  | .equalExpected => "= missing in declaration"
  | .closingExpected => "'(' expected"
  | .primaryExpected => "primary expected"
  | .worded text => text

def NameFault.message : NameFault → String
  | .undefinedName => "undefined name"
  | .undefinedVariable => "undefined variable"
  | .declaredTwice => "declared twice"

def ArithmeticFault.message : ArithmeticFault → String
  | .divisionByZero => "divide by zero"
  | .worded text => text

def InternalFault.message : InternalFault → String
  | .slotTaken => "putback() into full buffer"
  | .worded text => text

/-- The text that reports a fault. -/
def Fault.message : Fault → String
  | .lexical cause => cause.message
  | .grammar cause => cause.message
  | .name cause subject => cause.message ++ ": " ++ subject
  | .arithmetic cause => cause.message
  | .internal cause => "internal error: " ++ cause.message
  | .endOfInput => "unexpected end of input"
  | .device text => text

end Calculator
