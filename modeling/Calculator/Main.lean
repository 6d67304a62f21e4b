import Calculator.Program

namespace Calculator

/-- Writes what a run left behind and answers its status. -/
def Exit.write (result : Exit) : IO UInt32 := do
  let out ← IO.getStdout
  let err ← IO.getStderr
  out.write ⟨result.out.toArray⟩
  out.flush
  err.putStr result.err
  err.flush
  return result.status.toUInt32

/-- Reads a file, unless it cannot be read. -/
def readFile? (name : String) : IO (Option (List UInt8)) := do
  try
    let contents ← IO.FS.readBinFile name
    return some contents.data.toList
  catch _ => return none

/-- Reads a line with its newline; nothing is read at the end of input. -/
partial def readLine (input : IO.FS.Stream) (line : List UInt8) : IO (List UInt8) := do
  match (← input.read 1).data.toList with
  | [] => return line.reverse
  | byte :: _ => if byte = 10 then return (byte :: line).reverse else readLine input (byte :: line)

/-- Talks on the standard streams, line by line, with the outcome that `Invocation.perform` has on
the whole input. A turn that asks for more than has been read waits for the next line and is taken
again from its start; `shown` counts what it has written already. -/
partial def converse (level : Level) (session : Session) (evaluated failed : Nat)
    (shown : Nat × Nat) : IO UInt32 := do
  let turn := session.turn
  let told := (level.account turn.trace).toList
  let _ ← Exit.write
    { status := 0, out := turn.out.drop shown.1, err := .ofList (told.drop shown.2) }
  match turn.how with
  | .evaluated => converse level turn.session (evaluated + 1) failed (0, 0)
  | .failed => converse level turn.session evaluated (failed + 1) (0, 0)
  | .finished ending =>
    let outcome : Outcome := ⟨ending, evaluated, failed⟩
    let closing := [.finished outcome, .variablesAtExit turn.session.table]
    Exit.write { status := 0, err := level.account closing }
  | .broken fault =>
    let source := session.tokens.source
    if source.failure.isNone then (fault.exit []).write
    else
      let line ← readLine (← IO.getStdin) []
      let source := if line.isEmpty then source.close else source.feed line
      let session := { session with tokens := { session.tokens with source } }
      converse level session evaluated failed (turn.out.length, told.length)

end Calculator

open Calculator

def main (arguments : List String) : IO UInt32 := do
  match Request.ofArguments arguments with
  | .misuse => Exit.write { status := 2, err := usage }
  | .showVersion => Exit.write { status := 0, out := encodeUtf8 version }
  | .perform invocation =>
    match invocation.file? with
    | some file => (invocation.perform [] (← readFile? file)).write
    | none =>
      let source := Source.ofBytes [] (some "more input is awaited")
      match Session.start invocation.settings source .unlimited .unlimited with
      | .error fault => fault.exit.write
      | .ok session => converse invocation.level session 0 0 (0, 0)
