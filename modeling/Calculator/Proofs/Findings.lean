import Calculator.Proofs.FaultOrigin
import Calculator.Proofs.TableGrowth

namespace Calculator

/-- What a session finds where a statement may start: a value or a fault that it goes on after, its
end, or a failure that breaks it off. -/
inductive Finding where
  | value (evaluated : Evaluated)
  | mistake (fault : Fault)
  | ending (ending : Ending)
  | failure (fault : Fault)

/-- A finding, the tokenizer that it leaves, and an account of what happened. -/
structure Found where
  finding : Finding
  tokens : Tokenizer
  trace : List Event

def Finding.ofResult : Except Fault Evaluated → Finding
  | .ok evaluated => .value evaluated
  | .error fault =>
    if fault.recoverable then .mistake fault
    else if fault = .endOfInput then .ending .endOfInput
    else .failure fault

/-- A statement that the end of input cuts short is told of. -/
def Finding.warning : Finding → List Event
  | .ending _ => [.cutShort]
  | _ => []

/-- What there is at the next statement of a tokenizer. Nothing has been written by then. -/
def Tokenizer.find (table : SymbolTable) (t : Tokenizer) : Found :=
  let first := t.firstToken
  match first.result with
  | .error .endOfInput => ⟨.ending .endOfInput, first.tokens, first.trace⟩
  | .ok (.keyword .quit) => ⟨.ending .quit, first.tokens, first.trace⟩
  | _ =>
    let statement := statementAt table first
    let finding := Finding.ofResult statement.result
    ⟨finding, statement.tokens, statement.trace ++ finding.warning⟩

/-- The bytes with which an announcement is shown where results go. -/
def Announcement.shown (marker : String) : Announcement → List UInt8
  | .value v => encodeUtf8 (marker ++ floatText v ++ "\n")
  | .fault _ => []

/-- The bytes with which an announcement is told where faults go. -/
def Announcement.told : Announcement → List UInt8
  | .value _ => []
  | .fault reason => encodeUtf8 (reason.message ++ "\n")

/-- Puts an account of earlier events in front of a turn's own. -/
def Turn.behind (trace : List Event) (turn : Turn) : Turn :=
  { turn with trace := trace ++ turn.trace }

/-- Tells what was found. -/
def Session.tell (s : Session) (found : Found) : Turn :=
  match found.finding with
  | .value evaluated => (s.showValue evaluated found.tokens).behind found.trace
  | .mistake fault => (s.recover fault found.tokens).behind found.trace
  | .ending ending =>
    { how := .finished ending, session := { s with tokens := found.tokens }, trace := found.trace }
  | .failure fault =>
    { how := .broken fault, session := { s with tokens := found.tokens }, trace := found.trace }

namespace Tokenizer

variable {table : SymbolTable} {t : Tokenizer} {fault : Fault}

theorem find_of_ended (ended : t.firstToken.result = .error .endOfInput) :
    t.find table = ⟨.ending .endOfInput, t.firstToken.tokens, t.firstToken.trace⟩ := by
  simp only [find, ended]

theorem find_of_quits (quits : t.firstToken.result = .ok (.keyword .quit)) :
    t.find table = ⟨.ending .quit, t.firstToken.tokens, t.firstToken.trace⟩ := by
  simp only [find, quits]

theorem find_of_statement (noEnd : t.firstToken.result ≠ .error .endOfInput)
    (noQuit : t.firstToken.result ≠ .ok (.keyword .quit)) :
    t.find table =
      let statement := statementAt table t.firstToken
      let finding := Finding.ofResult statement.result
      ⟨finding, statement.tokens, statement.trace ++ finding.warning⟩ := by
  unfold find
  dsimp only
  split
  next ended => exact absurd ended noEnd
  next quits => exact absurd quits noQuit
  next => rfl

/-- The first token ends the session, or a statement starts with it. -/
theorem find_cases (table : SymbolTable) (t : Tokenizer) :
    (∃ ending, t.find table = ⟨.ending ending, t.firstToken.tokens, t.firstToken.trace⟩) ∨
    t.find table =
      let statement := statementAt table t.firstToken
      let finding := Finding.ofResult statement.result
      ⟨finding, statement.tokens, statement.trace ++ finding.warning⟩ := by
  by_cases ended : t.firstToken.result = .error .endOfInput
  · exact Or.inl ⟨_, find_of_ended ended⟩
  by_cases quits : t.firstToken.result = .ok (.keyword .quit)
  · exact Or.inl ⟨_, find_of_quits quits⟩
  · exact Or.inr (find_of_statement ended quits)

end Tokenizer

namespace Finding

variable {result : Except Fault Evaluated} {fault : Fault}

theorem announcements_warning (finding : Finding) : announcements finding.warning = [] := by
  cases finding <;> rfl

theorem ofResult_eq_failure (h : ofResult result = .failure fault) :
    result = .error fault ∧ fault.recoverable = false ∧ fault ≠ .endOfInput := by
  unfold ofResult at h
  split at h
  next => cases h
  next =>
    split at h
    next => cases h
    next final =>
      split at h
      next => cases h
      next more =>
        cases h
        exact ⟨rfl, by simpa using final, more⟩

theorem ofResult_eq_ending {ending : Ending} (h : ofResult result = .ending ending) :
    ending = .endOfInput ∧ result = .error .endOfInput := by
  unfold ofResult at h
  split at h
  next => cases h
  next =>
    split at h
    next => cases h
    next =>
      split at h
      next isEnd =>
        cases h
        exact ⟨rfl, congrArg Except.error isEnd⟩
      next => cases h

end Finding

namespace Tokenizer

variable {table : SymbolTable} {t : Tokenizer} {fault : Fault}

theorem calm_find (table : SymbolTable) (t : Tokenizer) :
    Calm t (t.find table).trace (t.find table).tokens := by
  rcases find_cases table t with ⟨ending, found⟩ | found
  · rw [found]
    exact journey_calm.firstToken t
  · obtain ⟨same, leads, quiet⟩ := journey_calm.statementAt table t
    rw [found]
    refine ⟨same, leads, ?_⟩
    rw [announcements_append, quiet, Finding.announcements_warning, List.append_nil]

/-- A source that does not fail gives no failure to be found. -/
theorem find_ne_failure (normal : t.source.failure = none) :
    (t.find table).finding ≠ .failure fault := by
  intro h
  rcases find_cases table t with ⟨ending, found⟩ | found
  · rw [found] at h
    cases h
  · rw [found] at h
    obtain ⟨failed, final, more⟩ := Finding.ofResult_eq_failure h
    rcases (explained_statementAt table t fault failed).cases with
      recoverable | isEnd | ⟨_, broken, _⟩
    · rw [final] at recoverable
      cases recoverable
    · exact more isEnd
    · cases normal.symm.trans broken

end Tokenizer

namespace Session

variable {s : Session}

theorem tell_cases (s : Session) (found : Found) :
    (s.tell found).how = .evaluated ∨
    ((s.tell found).how = .failed ∧ (s.tell found).session.tokens =
      (found.tokens.discardThrough s.settings.dialect.separator).tokens) ∨
    (∃ ending, (s.tell found).how = .finished ending ∧ found.finding = .ending ending ∧
      (s.tell found).session = { s with tokens := found.tokens }) ∨
    ∃ fault, (s.tell found).how = .broken fault := by
  unfold tell
  split
  next evaluated _ =>
    rcases showValue_how s evaluated found.tokens with shows | full
    · exact Or.inl shows
    · exact Or.inr (Or.inr (Or.inr ⟨_, full⟩))
  next fault _ =>
    rcases recover_how s fault found.tokens with skips | ⟨broken, breaks⟩
    · exact Or.inr (Or.inl skips)
    · exact Or.inr (Or.inr (Or.inr ⟨broken, breaks⟩))
  next ending finding => exact Or.inr (Or.inr (Or.inl ⟨ending, rfl, finding, rfl⟩))
  next fault _ => exact Or.inr (Or.inr (Or.inr ⟨fault, rfl⟩))

theorem tell_ofResult (s : Session) (statement : Step Evaluated) :
    (s.conclude statement.result statement.tokens).behind statement.trace =
      let finding := Finding.ofResult statement.result
      s.tell ⟨finding, statement.tokens, statement.trace ++ finding.warning⟩ := by
  obtain ⟨result, tokens, trace⟩ := statement
  dsimp only
  cases result with
  | ok evaluated => simp only [Finding.ofResult, Finding.warning, List.append_nil, tell, conclude]
  | error fault =>
    simp only [Finding.ofResult, conclude]
    by_cases recoverable : fault.recoverable = true
    · simp only [recoverable, ↓reduceIte, Finding.warning, List.append_nil, tell]
    by_cases ended : fault = .endOfInput
    · subst ended
      rfl
    · simp only [recoverable, ended, Bool.false_eq_true, ↓reduceIte, Finding.warning,
        List.append_nil, tell, Turn.behind]

theorem answer_eq_tell (s : Session) : s.answer = s.tell (s.tokens.find s.table) := by
  by_cases ended : s.tokens.firstToken.result = .error .endOfInput
  · rw [Tokenizer.find_of_ended ended]
    simp only [answer, ended, tell]
  by_cases quits : s.tokens.firstToken.result = .ok (.keyword .quit)
  · rw [Tokenizer.find_of_quits quits]
    simp only [answer, quits, tell]
  · rw [Tokenizer.find_of_statement ended quits, answer_statement ended quits]
    exact tell_ofResult s _

/-- A turn with room for its prompt. -/
theorem turn_eq_tell (prompted : (s.out.write s.settings.prompt).complete = true) :
    s.turn =
      let told := s.prompted.tell (s.tokens.find s.table)
      { told with out := (s.out.write s.settings.prompt).kept ++ told.out } := by
  have answered : s.prompted.answer = s.prompted.tell (s.tokens.find s.table) :=
    answer_eq_tell s.prompted
  rw [turn, if_pos prompted, ← answered]
  rfl

theorem turn_cases (s : Session) :
    s.turn.how = .evaluated ∨
    (s.turn.how = .failed ∧ s.turn.session.tokens =
      ((s.tokens.find s.table).tokens.discardThrough s.settings.dialect.separator).tokens) ∨
    (∃ ending, s.turn.how = .finished ending ∧
      (s.tokens.find s.table).finding = .ending ending ∧
      s.turn.session.tokens = (s.tokens.find s.table).tokens) ∨
    ∃ fault, s.turn.how = .broken fault := by
  by_cases prompted : (s.out.write s.settings.prompt).complete = true
  · rw [turn_eq_tell prompted]
    rcases s.prompted.tell_cases (s.tokens.find s.table) with
      shows | skips | ⟨ending, how, finding, session⟩ | breaks
    · exact Or.inl shows
    · exact Or.inr (Or.inl skips)
    · exact Or.inr (Or.inr (Or.inl ⟨ending, how, finding, congrArg Session.tokens session⟩))
    · exact Or.inr (Or.inr (Or.inr breaks))
  · rw [turn, if_neg prompted]
    exact Or.inr (Or.inr (Or.inr ⟨_, rfl⟩))

/-- A turn that has failed has skipped the rest of its statement. -/
theorem tokens_turn_failed (fails : s.turn.how = .failed) : s.turn.session.tokens =
    ((s.tokens.find s.table).tokens.discardThrough s.settings.dialect.separator).tokens := by
  rcases s.turn_cases with how | ⟨_, skipped⟩ | ⟨_, how, _⟩ | ⟨_, how⟩
  · cases fails.symm.trans how
  · exact skipped
  · cases fails.symm.trans how
  · cases fails.symm.trans how

/-- A turn that has ended a run has found an ending, and goes no further. -/
theorem turn_finished {ending : Ending} (ends : s.turn.how = .finished ending) :
    (s.tokens.find s.table).finding = .ending ending ∧
      s.turn.session.tokens = (s.tokens.find s.table).tokens := by
  rcases s.turn_cases with how | ⟨how, _⟩ | ⟨_, how, found⟩ | ⟨_, how⟩
  · cases ends.symm.trans how
  · cases ends.symm.trans how
  · cases ends.symm.trans how
    exact found
  · cases ends.symm.trans how

/-- A session that has come to the end of its source. -/
structure Ended (s : Session) : Prop where
  normal : s.tokens.source.failure = none
  used : s.tokens.stream = []

theorem Ended.turn (h : s.Ended) : s.turn.session.Ended ∧ s.turn.session.table = s.table ∧
    s.turn.err = [] ∧
    ((s.turn.how = .finished .endOfInput ∧ s.turn.out = encodeUtf8 s.settings.prompt) ∨
      (s.out ≠ .unlimited ∧ s.turn.how = .broken Sink.full ∧
        s.turn.out <+: encodeUtf8 s.settings.prompt)) := by
  rcases s.out.write_cases s.settings.prompt with ⟨complete, kept⟩ | ⟨limited, incomplete, kept⟩
  · have read : s.tokens.firstToken.reading = ⟨.error .endOfInput, []⟩ := by
      rw [Tokenizer.reading_firstToken, h.used]
      rfl
    have leads := (journey_calm.firstToken s.tokens).2.1
    have turn : s.turn = ⟨.finished .endOfInput, { s.prompted with tokens :=
        s.tokens.firstToken.tokens }, encodeUtf8 s.settings.prompt, [],
        s.tokens.firstToken.trace⟩ := by
      rw [turn_eq_tell complete, Tokenizer.find_of_ended (congrArg Reading.result read)]
      simp only [tell, kept, List.append_nil]
    rw [turn]
    exact ⟨⟨leads.failure.trans h.normal, congrArg Reading.rest read⟩, rfl, rfl,
      Or.inl ⟨rfl, rfl⟩⟩
  · have incomplete : ¬(s.out.write s.settings.prompt).complete = true := by simp [incomplete]
    rw [Session.turn, if_neg incomplete]
    exact ⟨⟨h.normal, h.used⟩, rfl, rfl, Or.inr ⟨limited, rfl, kept⟩⟩

/-- A run that finds nothing more: it changes nothing, and writes no more than one prompt. -/
structure Idle (s : Session) (evaluated failed : Nat) (report : Report) : Prop where
  table : report.session.table = s.table
  err : report.err = []
  result : (report.result = .ok ⟨.endOfInput, evaluated, failed⟩ ∧
      report.out = encodeUtf8 s.settings.prompt) ∨
    (s.out ≠ .unlimited ∧ report.result = .error Sink.full ∧
      report.out <+: encodeUtf8 s.settings.prompt)

/-- At the end of input a run finds nothing more, and leaves the session there. -/
theorem Ended.runFrom (h : s.Ended) (evaluated failed : Nat) :
    (s.runFrom evaluated failed).session.Ended ∧
      s.Idle evaluated failed (s.runFrom evaluated failed) := by
  obtain ⟨ended, table, err, turn⟩ := h.turn
  rw [runFrom_eq]
  rcases turn with ⟨how, out⟩ | ⟨limited, how, out⟩
  · rw [how]
    exact ⟨ended, table, err, Or.inl ⟨rfl, out⟩⟩
  · rw [how]
    exact ⟨ended, table, err, Or.inr ⟨limited, rfl, out⟩⟩

/-- A session whose sinks take everything. -/
structure Wide (s : Session) : Prop where
  out : s.out = .unlimited
  err : s.err = .unlimited

theorem Wide.onward {after : Session} (wide : s.Wide) (onward : s.Onward after) : after.Wide :=
  ⟨onward.out wide.out, onward.err wide.err⟩

theorem Wide.turn (wide : s.Wide) : s.turn.session.Wide := wide.onward (onward_turn s)

/-- A turn of a session whose sinks take everything writes its prompt and tells what it finds. -/
theorem Wide.turn_eq (wide : s.Wide) :
    s.turn =
      let told := s.tell (s.tokens.find s.table)
      { told with out := encodeUtf8 s.settings.prompt ++ told.out } := by
  obtain ⟨settings, tokens, table, out, err⟩ := s
  obtain ⟨rfl, rfl⟩ := wide
  exact turn_eq_tell rfl

theorem Wide.tell_value {tokens : Tokenizer} {trace : List Event} (wide : s.Wide)
    (evaluated : Evaluated) :
    s.tell ⟨.value evaluated, tokens, trace⟩ =
      { how := .evaluated
        session := { s with tokens, table := evaluated.table }
        out := (Announcement.value evaluated.value).shown s.settings.resultMarker
        trace := trace ++ [.evaluated evaluated.value] } := by
  obtain ⟨settings, tokens, table, out, err⟩ := s
  obtain ⟨rfl, rfl⟩ := wide
  rfl

theorem Wide.tell_mistake {tokens : Tokenizer} {trace : List Event} (wide : s.Wide)
    (fault : Fault) :
    s.tell ⟨.mistake fault, tokens, trace⟩ =
      let skip := tokens.discardThrough s.settings.dialect.separator
      { how := match skip.result with
          | .ok () => .failed
          | .error fault => .broken fault
        session := { s with tokens := skip.tokens }
        err := (Announcement.fault fault).told
        trace := trace ++ .failed fault :: skip.trace } := by
  obtain ⟨settings, tokens, table, out, err⟩ := s
  obtain ⟨rfl, rfl⟩ := wide
  rfl

/-- Where no device fails, every run has an outcome. -/
theorem Wide.run_ok (wide : s.Wide) (normal : s.tokens.source.failure = none) :
    ∃ outcome, s.run.result = .ok outcome := by
  cases result : s.run.result with
  | ok outcome => exact ⟨outcome, rfl⟩
  | error fault =>
    have onward := (visits_runFrom s 0 0).onward
    have after := wide.onward onward
    exact absurd (stuck_runFrom s 0 0 result)
      (not_stuck (onward.leads.failure.trans normal) after.out after.err)

end Session

end Calculator
