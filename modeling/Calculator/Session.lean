import Calculator.Evaluator
import Calculator.Sink

namespace Calculator

namespace Within

variable {n : Nat}

/-- The next token that is not a separator. -/
def firstToken (t : Tokenizer) : Within t.size Token :=
  (next t).bind (Nat.le_refl _) fun token rest less =>
    match token with
    | .punct .separator => (firstToken rest).weaken (Nat.le_of_lt less)
    | token => done token rest less
termination_by t.size

/-- The next statement that is not empty. -/
def nextStatement (table : SymbolTable) (t : Tokenizer) : Within t.size Evaluated :=
  (firstToken t).bind (Nat.le_refl _) fun token rest less =>
    giveBack token rest less fun rest le => (statement table rest).weaken le

end Within

namespace Tokenizer

/-- The next token that is not a separator. -/
def firstToken (t : Tokenizer) : Step Token := (Within.firstToken t).val

theorem firstToken_eq (t : Tokenizer) :
    t.firstToken = t.next.andThen fun token rest =>
      match token with
      | .punct .separator => rest.firstToken
      | token => .settle (.ok token) rest := by
  unfold firstToken
  rw [Within.firstToken]
  apply Within.val_bind
  intro token rest less
  split <;> rfl

/-- Evaluates the statement that starts with the token a step has just taken. -/
def statementAt (table : SymbolTable) (first : Step Token) : Step Evaluated :=
  first.andThen fun token rest =>
    (rest.pushBack token).andThen fun _ rest => rest.statement table

theorem statementAt_bounded (table : SymbolTable) (t : Tokenizer) :
    (statementAt table t.firstToken).Bounded t.size := by
  have same : (Within.nextStatement table t).val = statementAt table t.firstToken :=
    Within.val_bind fun _ _ _ => Within.val_giveBack fun _ _ => rfl
  exact same ▸ (Within.nextStatement table t).property

end Tokenizer

/-- A conversation over one source: statements come in, results and faults go out. -/
structure Session where
  settings : Settings
  tokens : Tokenizer
  table : SymbolTable
  out : Sink
  err : Sink

/-- How a turn of a session ends. -/
inductive TurnEnd where
  | evaluated
  | failed
  | finished (ending : Ending)
  | broken (fault : Fault)
deriving DecidableEq

/-- A turn of a session: how it ends, the session after it, what it wrote to both sinks, and an
account of it. -/
structure Turn where
  how : TurnEnd
  session : Session
  out : List UInt8 := []
  err : List UInt8 := []
  trace : List Event := []

/-- A run of a session: how it ended, the session after it, what it wrote to both sinks, and an
account of it. -/
structure Report where
  result : Except Fault Outcome
  session : Session
  out : List UInt8
  err : List UInt8
  trace : List Event

/-- Puts a turn in front of the rest of a run. -/
def Report.after (turn : Turn) (report : Report) : Report :=
  { report with
    out := turn.out ++ report.out
    err := turn.err ++ report.err
    trace := turn.trace ++ report.trace }

namespace Session

/-- A session at the start of a source, if its dialect is a usable one. -/
def start (settings : Settings) (source : Source) (out err : Sink) :
    Except DialectFault Session := do
  settings.dialect.check
  return {
    settings
    tokens := .ofSource settings.dialect source
    table := if settings.withConstants then .withConstants else .empty
    out
    err }

/-- Shows the value of a statement. -/
def showValue (s : Session) (evaluated : Evaluated) (tokens : Tokenizer) : Turn :=
  let shown := s.out.write (s.settings.resultMarker ++ floatText evaluated.value ++ "\n")
  { how := if shown.complete then .evaluated else .broken Sink.full
    session := { s with tokens, table := evaluated.table, out := shown.sink }
    out := shown.kept
    trace := [.evaluated evaluated.value] }

/-- Reports a fault and skips the rest of its statement. -/
def recover (s : Session) (fault : Fault) (tokens : Tokenizer) : Turn :=
  let told := s.err.write (fault.message ++ "\n")
  if told.complete then
    let skip := tokens.discardThrough s.settings.dialect.separator
    { how := match skip.result with
        | .ok () => .failed
        | .error fault => .broken fault
      session := { s with tokens := skip.tokens, err := told.sink }
      err := told.kept
      trace := .failed fault :: skip.trace }
  else
    { how := .broken Sink.full
      session := { s with tokens, err := told.sink }
      err := told.kept
      trace := [.failed fault] }

/-- Reports what a statement came to. -/
def conclude (s : Session) (result : Except Fault Evaluated) (tokens : Tokenizer) : Turn :=
  match result with
  | .ok evaluated => s.showValue evaluated tokens
  | .error fault =>
    if fault.recoverable then s.recover fault tokens
    else if fault = .endOfInput then
      { how := .finished .endOfInput, session := { s with tokens }, trace := [.cutShort] }
    else { how := .broken fault, session := { s with tokens } }

/-- Takes a statement and reports what it came to, or finds that there is none. -/
def answer (s : Session) : Turn :=
  let first := s.tokens.firstToken
  let finish (ending : Ending) : Turn :=
    { how := .finished ending, session := { s with tokens := first.tokens }, trace := first.trace }
  match first.result with
  | .error .endOfInput => finish .endOfInput
  | .ok (.keyword .quit) => finish .quit
  | _ =>
    let statement := Tokenizer.statementAt s.table first
    let turn := s.conclude statement.result statement.tokens
    { turn with trace := statement.trace ++ turn.trace }

/-- Writes the prompt and answers a statement. -/
def turn (s : Session) : Turn :=
  let prompt := s.out.write s.settings.prompt
  if prompt.complete then
    let answer := { s with out := prompt.sink }.answer
    { answer with out := prompt.kept ++ answer.out }
  else
    { how := .broken Sink.full, session := { s with out := prompt.sink }, out := prompt.kept }

end Session

theorem Tokenizer.size_discardThrough {target : Char} {t : Tokenizer}
    (h : (t.discardThrough target).result = .ok ()) :
    (t.discardThrough target).tokens.size ≤ t.source.unread.length := by
  unfold discardThrough at h ⊢
  split at h
  next held => simp [held, size]
  next held =>
    simp only [held, Bool.false_eq_true, ↓reduceIte]
    split at h
    next found count source skip =>
      simpa [skip, size] using Source.skipThrough_ok skip
    next => cases h

namespace Session

theorem size_recover {s : Session} {fault : Fault} {tokens : Tokenizer}
    (h : (s.recover fault tokens).how = .evaluated ∨ (s.recover fault tokens).how = .failed) :
    (s.recover fault tokens).session.tokens.size ≤ tokens.source.unread.length := by
  unfold recover at *
  dsimp only at *
  split at h
  next complete =>
    simp only [complete, ↓reduceIte]
    cases skip : (tokens.discardThrough s.settings.dialect.separator).result with
    | ok => exact Tokenizer.size_discardThrough skip
    | error => simp [skip] at h
  next => simp at h

theorem size_conclude {s : Session} {n : Nat} {statement : Step Evaluated}
    (bounded : statement.Bounded n)
    (h : (s.conclude statement.result statement.tokens).how = .evaluated ∨
      (s.conclude statement.result statement.tokens).how = .failed) :
    (s.conclude statement.result statement.tokens).session.tokens.size < n := by
  unfold conclude Step.Bounded at *
  cases result : statement.result with
  | ok evaluated =>
    simp only [result] at bounded
    exact bounded
  | error fault =>
    simp only [result] at bounded h ⊢
    split at h
    next recoverable =>
      simp only [recoverable, ↓reduceIte]
      exact Nat.lt_of_le_of_lt (size_recover h) (bounded recoverable)
    next => split at h <;> simp at h

theorem size_answer {s : Session}
    (h : s.answer.how = .evaluated ∨ s.answer.how = .failed) :
    s.answer.session.tokens.size < s.tokens.size := by
  unfold answer at *
  dsimp only at *
  split at h
  next => simp at h
  next => simp at h
  next => exact size_conclude (Tokenizer.statementAt_bounded s.table s.tokens) h

/-- A turn after which the session goes on has taken something. -/
theorem size_turn {s : Session} (h : s.turn.how = .evaluated ∨ s.turn.how = .failed) :
    s.turn.session.tokens.size < s.tokens.size := by
  unfold turn at *
  dsimp only at *
  split at h
  next complete =>
    simp only [complete, ↓reduceIte]
    exact size_answer h
  next => simp at h

/-- Takes turns until one ends the run, counting the statements that had a value and those that
had not. -/
def runFrom (s : Session) (evaluated failed : Nat) : Report :=
  match h : s.turn.how with
  | .evaluated => (s.turn.session.runFrom (evaluated + 1) failed).after s.turn
  | .failed => (s.turn.session.runFrom evaluated (failed + 1)).after s.turn
  | .finished ending =>
    let outcome : Outcome := ⟨ending, evaluated, failed⟩
    ⟨.ok outcome, s.turn.session, s.turn.out, s.turn.err, s.turn.trace ++ [.finished outcome]⟩
  | .broken fault => ⟨.error fault, s.turn.session, s.turn.out, s.turn.err, s.turn.trace⟩
termination_by s.tokens.size
decreasing_by
  · exact size_turn (.inl h)
  · exact size_turn (.inr h)

/-- Runs a session to the end of its source, to the word that ends it, or to a fault that breaks
it off. -/
def run (s : Session) : Report := s.runFrom 0 0

end Session

end Calculator
