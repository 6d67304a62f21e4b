import Calculator.Proofs.ScriptEvaluation
import Calculator.Session

namespace Calculator

variable {α β : Type}

/-- A reading leaves no more than `n` of a script, and less if it has a result. -/
def Reading.Shrinks (n : Nat) (reading : Reading α) : Prop :=
  reading.rest.length ≤ n ∧ ∀ a, reading.result = .ok a → reading.rest.length < n

theorem Reading.Shrinks.mono {m n : Nat} {reading : Reading α} (h : reading.Shrinks m)
    (le : m ≤ n) : reading.Shrinks n := by
  obtain ⟨bound, strict⟩ := h
  refine ⟨by omega, fun a ha => ?_⟩
  have less := strict a ha
  omega

theorem Reading.shrinks_andThen {n : Nat} {reading : Reading α} {f : α → Script → Reading β}
    (first : reading.Shrinks n)
    (second : ∀ a rest, rest.length < n → (f a rest).Shrinks n) :
    (reading.andThen f).Shrinks n := by
  obtain ⟨result, rest⟩ := reading
  cases result with
  | ok a => exact second a rest (first.2 a rfl)
  | error fault => exact ⟨first.1, fun a ha => by cases ha⟩

theorem Reading.shrinks_of_lt {n : Nat} {reading : Reading α} (less : reading.rest.length < n) :
    reading.Shrinks n := ⟨Nat.le_of_lt less, fun _ _ => less⟩

namespace Script

theorem shrinks_next (script : Script) : (next script).Shrinks script.length := by
  match script with
  | [] => exact ⟨Nat.le_refl _, fun a ha => by cases ha⟩
  | .ok token :: rest => exact Reading.shrinks_of_lt (Nat.lt_succ_self _)
  | .error fault :: rest =>
    refine ⟨?_, fun a ha => by cases ha⟩
    simp only [next]
    split
    next => exact Nat.le_succ _
    next => exact Nat.le_refl _

theorem shrinks_reject {n : Nat} (token : Token) (cause : GrammarFault) {rest : Script}
    (less : rest.length < n) : (reject token cause rest : Reading α).Shrinks n :=
  ⟨less, fun a ha => by cases ha⟩

theorem settleMove_ne_accept (value total : Float) (frames : List Frame) :
    settleMove value frames ≠ .accept total := by
  unfold settleMove
  split <;> simp

theorem operandMove_ne_accept (table : SymbolTable) (frames : List Frame) (token : Token)
    (total : Float) : operandMove table frames token ≠ .accept total := by
  unfold operandMove
  split
  next => simp
  next => simp
  next => simp
  next value => exact settleMove_ne_accept value total frames
  next name =>
    split
    next value _ => exact settleMove_ne_accept value total frames
    next => simp
  next => simp

/-- How many tokens there have to be before an evaluation can have its value. -/
def owed : Phase → Nat
  | .operand => 1
  | .operator _ => 0

theorem length_evaluate (table : SymbolTable) (phase : Phase) (frames : List Frame)
    (script : Script) : (evaluate table phase frames script).rest.length ≤ script.length ∧
      ∀ value, (evaluate table phase frames script).result = .ok value →
        (evaluate table phase frames script).rest.length + owed phase ≤ script.length := by
  induction script generalizing phase frames with
  | nil => exact ⟨Nat.le_refl _, fun value h => by cases h⟩
  | cons first rest ih =>
    cases first with
    | error fault =>
      refine ⟨?_, fun value h => by cases h⟩
      simp only [evaluate]
      split
      next => exact Nat.le_succ _
      next => exact Nat.le_refl _
    | ok token =>
      rw [evaluate_cons]
      cases move : phase.move table frames token with
      | goOn after later =>
        obtain ⟨bound, strict⟩ := ih after later
        have most : owed phase ≤ 1 := by
          cases phase with
          | operand => exact Nat.le_refl 1
          | operator left => exact Nat.zero_le 1
        rw [follow, List.length_cons]
        refine ⟨by omega, fun value h => ?_⟩
        have less := strict value h
        omega
      | accept value =>
        cases phase with
        | operand => exact absurd move (operandMove_ne_accept table frames token value)
        | operator left => exact ⟨Nat.le_refl _, fun _ _ => Nat.le_refl _⟩
      | refuse fault givenBack =>
        refine ⟨?_, fun value h => by cases h⟩
        cases givenBack with
        | true => exact Nat.le_refl _
        | false => exact Nat.le_succ _

theorem shrinks_expression (table : SymbolTable) (script : Script) :
    (expression table script).Shrinks script.length :=
  length_evaluate table .operand [] script

theorem shrinks_declaration (table : SymbolTable) (script : Script) :
    (declaration table script).Shrinks script.length := by
  refine Reading.shrinks_andThen (shrinks_next script) fun token rest less => ?_
  split
  next =>
    refine Reading.shrinks_andThen ((shrinks_next rest).mono (by omega)) fun sign rest less => ?_
    split
    next =>
      refine Reading.shrinks_andThen ((shrinks_expression table rest).mono (by omega))
        fun value rest less => ?_
      refine Reading.shrinks_andThen (Reading.shrinks_of_lt less) fun declared rest less => ?_
      exact Reading.shrinks_of_lt less
    next => exact shrinks_reject _ _ less
  next => exact shrinks_reject _ _ less

theorem shrinks_statement (table : SymbolTable) (script : Script) :
    (statement table script).Shrinks script.length := by
  refine Reading.shrinks_andThen (shrinks_next script) fun token rest less => ?_
  split
  next => exact (shrinks_declaration table rest).mono (by omega)
  next =>
    refine Reading.shrinks_andThen ((shrinks_expression table _).mono less) fun value rest less => ?_
    exact Reading.shrinks_of_lt less

theorem shrinks_firstToken (script : Script) : (firstToken script).Shrinks script.length := by
  unfold firstToken
  split
  next rest => exact (shrinks_firstToken rest).mono (Nat.le_succ _)
  next => exact shrinks_next script

theorem length_dropThroughSeparator (script : Script) :
    (dropThroughSeparator script).length ≤ script.length - 1 := by
  induction script with
  | nil => exact Nat.le_refl _
  | cons first rest ih =>
    unfold dropThroughSeparator
    split
    next h => cases h
    next h =>
      cases h
      exact Nat.le_refl _
    next h =>
      cases h
      rw [List.length_cons]
      omega

/-- Evaluates the statement that starts with the token that has just been read. -/
def statementAt (table : SymbolTable) (first : Reading Token) : Reading Evaluated :=
  first.andThen fun token rest => statement table (.ok token :: rest)

theorem shrinks_statementAt (table : SymbolTable) (script : Script) :
    (statementAt table (firstToken script)).Shrinks script.length :=
  Reading.shrinks_andThen (shrinks_firstToken script) fun _ _ less =>
    (shrinks_statement table _).mono less

end Script

/-- What a session tells of a statement: a value that it shows or a fault that it reports. -/
inductive Announcement where
  | value (value : Float)
  | fault (fault : Fault)
deriving DecidableEq

/-- A conversation over a list of tokens and faults. -/
structure ScriptSession where
  settings : Settings
  script : Script
  table : SymbolTable
  out : Sink
  err : Sink

structure ScriptTurn where
  how : TurnEnd
  session : ScriptSession
  out : List UInt8 := []
  err : List UInt8 := []
  announced : List Announcement := []

/-- A run of a conversation over a list. -/
structure ScriptReport where
  result : Except Fault Outcome
  session : ScriptSession
  out : List UInt8
  err : List UInt8
  announced : List Announcement

/-- Puts a turn in front of the rest of a run. -/
def ScriptReport.after (turn : ScriptTurn) (report : ScriptReport) : ScriptReport :=
  { report with
    out := turn.out ++ report.out
    err := turn.err ++ report.err
    announced := turn.announced ++ report.announced }

namespace ScriptSession

def showValue (s : ScriptSession) (evaluated : Evaluated) (rest : Script) : ScriptTurn :=
  let shown := s.out.write (s.settings.resultMarker ++ floatText evaluated.value ++ "\n")
  { how := if shown.complete then .evaluated else .broken Sink.full
    session := { s with script := rest, table := evaluated.table, out := shown.sink }
    out := shown.kept
    announced := [.value evaluated.value] }

/-- Reports a fault and drops the rest of its statement. -/
def recover (s : ScriptSession) (fault : Fault) (rest : Script) : ScriptTurn :=
  let told := s.err.write (fault.message ++ "\n")
  if told.complete then
    { how := .failed
      session := { s with script := Script.dropThroughSeparator rest, err := told.sink }
      err := told.kept
      announced := [.fault fault] }
  else
    { how := .broken Sink.full
      session := { s with script := rest, err := told.sink }
      err := told.kept
      announced := [.fault fault] }

def conclude (s : ScriptSession) (statement : Reading Evaluated) : ScriptTurn :=
  match statement.result with
  | .ok evaluated => s.showValue evaluated statement.rest
  | .error fault =>
    if fault.recoverable then s.recover fault statement.rest
    else
      { how := if fault = .endOfInput then .finished .endOfInput else .broken fault
        session := { s with script := statement.rest } }

/-- Takes the statement that starts with a token and reports what it came to, or finds that there
is none. -/
def answerTo (s : ScriptSession) (first : Reading Token) : ScriptTurn :=
  match first.result with
  | .error .endOfInput =>
    { how := .finished .endOfInput, session := { s with script := first.rest } }
  | .ok (.keyword .quit) => { how := .finished .quit, session := { s with script := first.rest } }
  | _ => s.conclude (Script.statementAt s.table first)

def answer (s : ScriptSession) : ScriptTurn := s.answerTo (Script.firstToken s.script)

def turn (s : ScriptSession) : ScriptTurn :=
  let prompt := s.out.write s.settings.prompt
  if prompt.complete then
    let answer := { s with out := prompt.sink }.answer
    { answer with out := prompt.kept ++ answer.out }
  else
    { how := .broken Sink.full, session := { s with out := prompt.sink }, out := prompt.kept }

theorem answerTo_statement {s : ScriptSession} {first : Reading Token}
    (noEnd : first.result ≠ .error .endOfInput) (noQuit : first.result ≠ .ok (.keyword .quit)) :
    s.answerTo first = s.conclude (Script.statementAt s.table first) := by
  unfold answerTo
  split
  next ended => exact absurd ended noEnd
  next quits => exact absurd quits noQuit
  next => rfl

theorem length_conclude {s : ScriptSession} {n : Nat} {statement : Reading Evaluated}
    (shrinks : statement.Shrinks n) (pos : 0 < n)
    (h : (s.conclude statement).how = .evaluated ∨ (s.conclude statement).how = .failed) :
    (s.conclude statement).session.script.length < n := by
  unfold conclude at *
  split at h
  next evaluated result => exact shrinks.2 evaluated result
  next fault result =>
    split at h
    next recoverable =>
      rw [if_pos recoverable]
      unfold recover at *
      dsimp only at *
      split at h
      next complete =>
        rw [if_pos complete]
        have dropped := Script.length_dropThroughSeparator statement.rest
        have bound := shrinks.1
        show (Script.dropThroughSeparator statement.rest).length < n
        omega
      next => simp at h
    next =>
      dsimp only at h
      split at h <;> simp at h

theorem length_answer {s : ScriptSession}
    (h : s.answer.how = .evaluated ∨ s.answer.how = .failed) :
    s.answer.session.script.length < s.script.length := by
  unfold answer answerTo at *
  split at h
  next => simp at h
  next => simp at h
  next noEnd _ =>
    have pos : 0 < s.script.length := by
      cases hs : s.script with
      | nil =>
        rw [hs] at noEnd
        exact (noEnd rfl).elim
      | cons first rest => exact Nat.succ_pos _
    exact length_conclude (Script.shrinks_statementAt s.table s.script) pos h

/-- A turn after which the session goes on leaves less of the list. -/
theorem length_turn {s : ScriptSession} (h : s.turn.how = .evaluated ∨ s.turn.how = .failed) :
    s.turn.session.script.length < s.script.length := by
  unfold turn at *
  dsimp only at *
  split at h
  next complete =>
    simp only [complete, ↓reduceIte]
    exact length_answer h
  next => simp at h

/-- Takes turns until one ends the run, counting the statements that had a value and those that
had not. -/
def runFrom (s : ScriptSession) (evaluated failed : Nat) : ScriptReport :=
  match h : s.turn.how with
  | .evaluated => (s.turn.session.runFrom (evaluated + 1) failed).after s.turn
  | .failed => (s.turn.session.runFrom evaluated (failed + 1)).after s.turn
  | .finished ending =>
    ⟨.ok ⟨ending, evaluated, failed⟩, s.turn.session, s.turn.out, s.turn.err, s.turn.announced⟩
  | .broken fault => ⟨.error fault, s.turn.session, s.turn.out, s.turn.err, s.turn.announced⟩
termination_by s.script.length
decreasing_by
  · exact length_turn (.inl h)
  · exact length_turn (.inr h)

theorem runFrom_eq (s : ScriptSession) (evaluated failed : Nat) : s.runFrom evaluated failed =
    match s.turn.how with
    | .evaluated => (s.turn.session.runFrom (evaluated + 1) failed).after s.turn
    | .failed => (s.turn.session.runFrom evaluated (failed + 1)).after s.turn
    | .finished ending =>
      ⟨.ok ⟨ending, evaluated, failed⟩, s.turn.session, s.turn.out, s.turn.err, s.turn.announced⟩
    | .broken fault =>
      ⟨.error fault, s.turn.session, s.turn.out, s.turn.err, s.turn.announced⟩ := by
  rw [runFrom]
  split
  next h => simp only [h]
  next h => simp only [h]
  next h => simp only [h]
  next h => simp only [h]

def run (s : ScriptSession) : ScriptReport := s.runFrom 0 0

end ScriptSession

end Calculator
