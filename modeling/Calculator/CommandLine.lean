import Calculator.Settings
import Calculator.Log

namespace Calculator

/-- What the program is asked to do: talk on the standard streams, evaluate a file, or list the
tokens of a file. -/
inductive Command where
  | converse
  | evaluate (file : String)
  | listTokens (file : String)
deriving DecidableEq

/-- A command with everything that goes with it. -/
structure Invocation where
  command : Command
  settings : Settings
  level : Level
deriving DecidableEq

/-- What a command line asks for. -/
inductive Request where
  | perform (invocation : Invocation)
  | showVersion
  | misuse
deriving DecidableEq

/-- The options that have a value. -/
inductive ValueOption where
  | separator
  | letKeyword
  | quitKeyword
  | prompt
  | resultMarker
deriving DecidableEq

/-- The options that have none. -/
inductive Flag where
  | noConstants
  | quiet
  | verbose
  | version
deriving DecidableEq

/-- The options given so far. All but `verbose` are given once at most. -/
structure Given where
  separator : Option Char := none
  letKeyword : Option String := none
  quitKeyword : Option String := none
  prompt : Option String := none
  resultMarker : Option String := none
  noConstants : Bool := false
  quiet : Bool := false
  verbosity : Nat := 0

namespace Given

/-- Records the value of an option that has not been given yet. A separator is one character. -/
def setValue (given : Given) (option : ValueOption) (value : String) : Option Given :=
  match option with
  | .separator =>
    match given.separator, value.toList with
    | none, [c] => some { given with separator := some c }
    | _, _ => none
  | .letKeyword =>
    if given.letKeyword.isSome then none else some { given with letKeyword := some value }
  | .quitKeyword =>
    if given.quitKeyword.isSome then none else some { given with quitKeyword := some value }
  | .prompt => if given.prompt.isSome then none else some { given with prompt := some value }
  | .resultMarker =>
    if given.resultMarker.isSome then none else some { given with resultMarker := some value }

/-- The settings that options ask for. Quietness wins over a prompt. -/
def settings (given : Given) : Settings :=
  let plain : Settings := {}
  { dialect :=
      { separator := given.separator.getD plain.dialect.separator
        declareWord := given.letKeyword.getD plain.dialect.declareWord
        quitWord := given.quitKeyword.getD plain.dialect.quitWord }
    prompt := if given.quiet then "" else given.prompt.getD plain.prompt
    resultMarker := given.resultMarker.getD plain.resultMarker
    withConstants := !given.noConstants }

/-- The request for a command with these options. -/
def perform (given : Given) (command : Command) : Request :=
  .perform ⟨command, given.settings, .ofVerbosity given.verbosity⟩

end Given

/-- Records a flag. The version is shown as soon as it is asked for. -/
def Flag.record (flag : Flag) (given : Given) : Except Request Given :=
  match flag with
  | .noConstants =>
    if given.noConstants then .error .misuse else .ok { given with noConstants := true }
  | .quiet => if given.quiet then .error .misuse else .ok { given with quiet := true }
  | .verbose => .ok { given with verbosity := given.verbosity + 1 }
  | .version => .error .showVersion

/-- The option with a value that a long name stands for. -/
def ValueOption.ofName? (name : List Char) : Option ValueOption :=
  if name = "separator".toList then some .separator
  else if name = "let-keyword".toList then some .letKeyword
  else if name = "quit-keyword".toList then some .quitKeyword
  else if name = "prompt".toList then some .prompt
  else if name = "result-marker".toList then some .resultMarker
  else none

/-- The flag that a long name stands for. -/
def Flag.ofName? (name : List Char) : Option Flag :=
  if name = "no-constants".toList then some .noConstants
  else if name = "quiet".toList then some .quiet
  else if name = "verbose".toList then some .verbose
  else if name = "version".toList then some .version
  else none

/-- The flag that a single letter stands for. -/
def Flag.ofLetter? : Char → Option Flag
  | 'q' => some .quiet
  | 'v' => some .verbose
  | 'V' => some .version
  | _ => none

/-- Records the flags of a cluster of letters, from left to right. -/
def recordLetters (given : Given) : List Char → Except Request Given
  | [] => .ok given
  | letter :: rest =>
    match Flag.ofLetter? letter with
    | none => .error .misuse
    | some flag =>
      match flag.record given with
      | .error request => .error request
      | .ok given => recordLetters given rest

/-- The shapes that an argument can have. -/
inductive Argument where
  | plain (text : String)
  | endOfOptions
  | long (name : List Char) (value : Option String)
  | letters (letters : List Char)
deriving DecidableEq

/-- The shape of an argument. A dash of its own is a plain argument. -/
def Argument.ofString (text : String) : Argument :=
  match text.toList with
  | ['-', '-'] => .endOfOptions
  | '-' :: '-' :: name =>
    match name.dropWhile (· ≠ '=') with
    | '=' :: value => .long (name.takeWhile (· ≠ '=')) (some (.ofList value))
    | _ => .long name none
  | '-' :: first :: more => .letters (first :: more)
  | _ => .plain text

/-- The one file that follows the name of a command. Behind the end of options every argument is
a file. -/
def fileArgument? (arguments : List String) : Option String :=
  let plain? (text : String) : Option String :=
    match Argument.ofString text with
    | .plain file => if file.isEmpty then none else some file
    | _ => none
  match arguments with
  | [file] => plain? file
  | [first, second] =>
    match Argument.ofString first, Argument.ofString second with
    | .endOfOptions, _ => if second.isEmpty then none else some second
    | _, .endOfOptions => plain? first
    | _, _ => none
  | _ => none

/-- What a command's name and the arguments behind it ask for. -/
def requestOfCommand (given : Given) (name : String) (arguments : List String) : Request :=
  if name = "calc" then
    if arguments = [] ∨ arguments = ["--"] then given.perform .converse else .misuse
  else if name = "run" then
    match fileArgument? arguments with
    | some file => given.perform (.evaluate file)
    | none => .misuse
  else if name = "tokenize" then
    match fileArgument? arguments with
    | some file => given.perform (.listTokens file)
    | none => .misuse
  else .misuse

/-- Reads arguments from left to right: options, then at most one command with its own arguments.
The value of an option does not start with a dash, unless it is a dash or is joined to the name
by an equals sign. -/
def requestFrom (given : Given) : List String → Request
  | [] => given.perform .converse
  | argument :: rest =>
    match Argument.ofString argument with
    | .endOfOptions => if rest.isEmpty then given.perform .converse else .misuse
    | .plain name => requestOfCommand given name rest
    | .letters letters =>
      match recordLetters given letters with
      | .error request => request
      | .ok given => requestFrom given rest
    | .long name attached =>
      match ValueOption.ofName? name, Flag.ofName? name, attached with
      | some option, _, some value =>
        match given.setValue option value with
        | none => .misuse
        | some given => requestFrom given rest
      | some option, _, none =>
        match rest with
        | [] => .misuse
        | value :: rest =>
          match Argument.ofString value with
          | .plain value =>
            match given.setValue option value with
            | none => .misuse
            | some given => requestFrom given rest
          | _ => .misuse
      | none, some flag, none =>
        match flag.record given with
        | .error request => request
        | .ok given => requestFrom given rest
      | none, _, _ => .misuse

/-- What the arguments of the program ask for. -/
def Request.ofArguments (arguments : List String) : Request := requestFrom {} arguments

end Calculator
