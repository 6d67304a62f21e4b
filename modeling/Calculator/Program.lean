import Calculator.CommandLine
import Calculator.Session
import Calculator.TokenStream

namespace Calculator

/-- What a run of the program leaves behind: its exit status and what it wrote. -/
structure Exit where
  status : Nat
  out : List UInt8 := []
  err : String := ""

/-- The text of an account on the error output. -/
def Level.account (level : Level) (trace : List Event) : String :=
  String.join (trace.map level.errorText)

/-- The exit of a program whose dialect is unusable. -/
def DialectFault.exit (fault : DialectFault) : Exit :=
  let advice := match fault.help? with
    | some help => "help: " ++ help ++ "\n"
    | none => ""
  { status := 1, err := "Error: " ++ fault.code ++ ": " ++ fault.message ++ "\n" ++ advice }

/-- The exit of a program whose run was broken off. -/
def Fault.exit (fault : Fault) (out : List UInt8) : Exit :=
  { status := 1, out, err := "Error: " ++ fault.kind.code ++ ": " ++ fault.message ++ "\n" }

/-- Evaluates the statements of a text. The events of a run that went to its end are told, and
then what else there is to tell of its outcome and of the session. -/
def evaluateText (settings : Settings) (level : Level) (text : List UInt8)
    (closing : Outcome → Session → List Event) : Exit :=
  match Session.start settings (.ofBytes text none) .unlimited .unlimited with
  | .error fault => fault.exit
  | .ok session =>
    let report := session.run
    match report.result with
    | .error fault => fault.exit report.out
    | .ok outcome =>
      { status := 0
        out := report.out
        err := level.account (report.trace ++ closing outcome report.session) }

/-- What a token listing writes for a step: a line for a token, nothing for a fault. -/
def Step.listing (step : Step Token) : String :=
  match step.result with
  | .ok token => token.listing ++ "\n"
  | .error _ => ""

/-- What a token listing tells of a step: its events, and the message of a fault that it goes on
after. -/
def Step.complaint (level : Level) (step : Step Token) : String :=
  let events := level.account step.trace
  match step.result with
  | .ok _ => events
  | .error fault => if fault.recoverable then events ++ fault.message ++ "\n" else events

/-- Lists the tokens of a text. -/
def listTokens (settings : Settings) (level : Level) (text : List UInt8) : Exit :=
  match settings.dialect.check with
  | .error fault => fault.exit
  | .ok () =>
    let steps := (Tokenizer.ofSource settings.dialect (.ofBytes text none)).steps
    { status := 0
      out := encodeUtf8 (String.join (steps.map Step.listing))
      err := String.join (steps.map (Step.complaint level)) }

/-- The exit of a program that could not read a file. -/
def unreadable (activity file : String) : Exit :=
  { status := 1, err := "Error: " ++ activity ++ " '" ++ file ++ "' failed\n" }

/-- The text that tells how to call the program. -/
def usage : String :=
  "usage: letcalc [options] [calc | run FILE | tokenize FILE]\n" ++
  "options: --separator CHAR, --let-keyword WORD, --quit-keyword WORD, --prompt TEXT,\n" ++
  "         --result-marker TEXT, --no-constants, -q | --quiet, -v | --verbose,\n" ++
  "         -V | --version\n"

/-- The name of the program and its version. -/
def version : String := "letcalc 0.1.0\n"

/-- The file that an invocation reads. -/
def Invocation.file? (invocation : Invocation) : Option String :=
  match invocation.command with
  | .converse => none
  | .evaluate file | .listTokens file => some file

/-- Performs an invocation, given what the standard input holds and the contents of the file that
it reads, if that could be read. No prompt is written while a file is evaluated, and a token
listing wants a file of valid text. -/
def Invocation.perform (invocation : Invocation) (input : List UInt8)
    (contents : Option (List UInt8)) : Exit :=
  let { command, settings, level } := invocation
  match command with
  | .converse =>
    evaluateText settings level input fun _ session => [.variablesAtExit session.table]
  | .evaluate file =>
    match contents with
    | none => unreadable "opening" file
    | some text =>
      evaluateText { settings with prompt := "" } level text fun outcome session =>
        [.fileFinished outcome file, .variablesAtExit session.table]
  | .listTokens file =>
    match contents with
    | none => unreadable "reading" file
    | some text =>
      if (decodeStrict text).isSome then listTokens settings level text
      else unreadable "reading" file

end Calculator
