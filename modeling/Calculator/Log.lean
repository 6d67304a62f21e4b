import Calculator.Event

namespace Calculator

/-- How much a reader of the log wants to know, from the least. -/
inductive Level where
  | warn
  | info
  | debug
  | trace
deriving DecidableEq

/-- The rank of a level: a log shows the events of its own level and of those below. -/
def Level.rank : Level → Nat
  | .warn => 0
  | .info => 1
  | .debug => 2
  | .trace => 3

/-- The level of a log that was asked for more so many times. -/
def Level.ofVerbosity : Nat → Level
  | 0 => .warn
  | 1 => .info
  | 2 => .debug
  | _ => .trace

/-- The name of a level, brought to one width. -/
def Level.label : Level → String
  | .warn => " WARN"
  | .info => " INFO"
  | .debug => "DEBUG"
  | .trace => "TRACE"

/-- The part of the calculator that an event comes from. -/
inductive Origin where
  | program
  | lexer
  | evaluator
  | table
  | session
deriving DecidableEq

def Origin.label : Origin → String
  | .program => "letcalc"
  | .lexer => "letcalc::lexer"
  | .evaluator => "letcalc::evaluator"
  | .table => "letcalc::env"
  | .session => "letcalc::session"

def Event.level : Event → Level
  | .cutShort => .warn
  | .finished _ | .fileFinished _ _ => .info
  | .declared _ _ | .skippedHeld _ | .skipped _ _ | .skippedToEnd _ | .evaluated _ | .failed _
  | .variablesAtExit _ => .debug
  | .token _ | .tokenAgain _ | .pushedBack _ | .operand _ => .trace

def Event.origin : Event → Origin
  | .token _ | .tokenAgain _ | .pushedBack _ | .skippedHeld _ | .skipped _ _
  | .skippedToEnd _ => .lexer
  | .operand _ => .evaluator
  | .declared _ _ => .table
  | .evaluated _ | .failed _ | .cutShort | .finished _ => .session
  | .fileFinished _ _ | .variablesAtExit _ => .program

def Ending.label : Ending → String
  | .quit => "Quit"
  | .endOfInput => "EndOfInput"

/-- An outcome in a log line. -/
def Outcome.listing (outcome : Outcome) : String :=
  "Outcome \x7b ending: " ++ outcome.ending.label ++
    ", evaluated: " ++ toString outcome.evaluated ++
    ", failed: " ++ toString outcome.failed ++ " \x7d"

/-- What an event tells, and its circumstances by name. -/
def Event.text : Event → String
  | .token t => "token token=" ++ t.listing
  | .tokenAgain t => "token from pushback token=" ++ t.listing
  | .pushedBack t => "push back token=" ++ t.listing
  | .operand t => "primary token=" ++ t.listing
  | .declared name value => "declare name=" ++ quotedText name ++ " value=" ++ floatListing value
  | .skippedHeld target => "resynchronized on pushed back token c=" ++ target.toString
  | .skipped target count =>
    "resynchronized c=" ++ target.toString ++ " skipped=" ++ toString count
  | .skippedToEnd count => "resynchronization reached end of input skipped=" ++ toString count
  | .evaluated value => "statement evaluated value=" ++ floatListing value
  | .failed fault => "statement failed kind=" ++ fault.kind.label
  | .cutShort => "input ended in the middle of a statement"
  | .finished outcome => "session finished outcome=" ++ outcome.listing
  | .fileFinished outcome file =>
    "run finished outcome=" ++ outcome.listing ++ " file=" ++ file
  | .variablesAtExit table =>
    if table.entries.isEmpty then "no variables declared"
    else "variables at exit count=" ++ toString table.size ++ " symbols=" ++ table.text

/-- The line of an event in a log. -/
def Event.line (event : Event) : String :=
  event.level.label ++ " " ++ event.origin.label ++ ": " ++ event.text ++ "\n"

/-- What a log of some level shows of an event. -/
def Level.logText (level : Level) (event : Event) : String :=
  if event.level.rank ≤ level.rank then event.line else ""

/-- What the error output shows of an event: its log line, and behind it the message of a
statement's fault. -/
def Level.errorText (level : Level) (event : Event) : String :=
  match event with
  | .failed fault => level.logText event ++ fault.message ++ "\n"
  | event => level.logText event

end Calculator
