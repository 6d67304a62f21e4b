import Calculator.Proofs.EvaluatorJourney
import Calculator.Proofs.Resynchronisation
import Calculator.Proofs.ScriptSession

namespace Calculator

/-- What an event announces to the user of a session. -/
def Event.announced? : Event → Option Announcement
  | .evaluated value => some (.value value)
  | .failed fault => some (.fault fault)
  | _ => none

/-- The values shown and the faults reported, in order. -/
def announcements (trace : List Event) : List Announcement := trace.filterMap Event.announced?

theorem announcements_append (first second : List Event) :
    announcements (first ++ second) = announcements first ++ announcements second :=
  List.filterMap_append

/-- From one tokenizer to another, reading went forward and nothing was announced. -/
def Calm (t : Tokenizer) (trace : List Event) (u : Tokenizer) : Prop :=
  u.dialect = t.dialect ∧ t.source.Leads u.source ∧ announcements trace = []

theorem calm_next (t : Tokenizer) : Calm t t.next.trace t.next.tokens := by
  refine ⟨Tokenizer.dialect_next t, Tokenizer.leads_next t, ?_⟩
  unfold Tokenizer.next
  split
  next => rfl
  next => split <;> rfl

theorem calm_pushBack (token : Token) (t : Tokenizer) :
    Calm t (t.pushBack token).trace (t.pushBack token).tokens := by
  unfold Tokenizer.pushBack
  split
  next => exact ⟨rfl, Source.Leads.refl _, rfl⟩
  next => exact ⟨rfl, Source.Leads.refl _, rfl⟩

theorem journey_calm : Journey Calm where
  stay t := ⟨rfl, Source.Leads.refl _, rfl⟩
  trans := by
    rintro t u v first second ⟨same, leads, quiet⟩ ⟨same', leads', quiet'⟩
    refine ⟨same'.trans same, leads.trans leads', ?_⟩
    rw [announcements_append, quiet, quiet', List.append_nil]
  next := calm_next
  pushBack := calm_pushBack
  operand token t := ⟨rfl, Source.Leads.refl _, rfl⟩
  declared name value t := ⟨rfl, Source.Leads.refl _, rfl⟩

theorem calm_discardThrough (target : Char) (t : Tokenizer) :
    Calm t (t.discardThrough target).trace (t.discardThrough target).tokens := by
  unfold Tokenizer.discardThrough
  split
  next => exact ⟨rfl, Source.Leads.refl _, rfl⟩
  next =>
    have reached := Source.reaches_skipThrough target 0 t.source
    split
    next found count source skipped =>
      refine ⟨rfl, reached.leads skipped, ?_⟩
      cases found <;> rfl
    next fault source skipped => exact ⟨rfl, (reached.broken skipped).1, rfl⟩

theorem Tokenizer.Intact.of_calm {dialect : Dialect} {t u : Tokenizer} {trace : List Event}
    (intact : t.Intact dialect) (calm : Calm t trace u) : u.Intact dialect :=
  ⟨calm.1.trans intact.same, intact.usable, intact.source.of_leads calm.2.1⟩

/-- A tokenizer of a usable dialect over a text that is all there. -/
structure Tokenizer.Ready (dialect : Dialect) (t : Tokenizer) : Prop where
  same : t.dialect = dialect
  usable : dialect.Usable
  whole : t.source.Whole
  normal : t.source.failure = none

theorem Tokenizer.Ready.of_calm {dialect : Dialect} {t u : Tokenizer} {trace : List Event}
    (ready : t.Ready dialect) (calm : Calm t trace u) : u.Ready dialect :=
  ⟨calm.1.trans ready.same, ready.usable, ready.whole.of_leads calm.2.1,
    Source.normal_of_leads ready.normal calm.2.1⟩

theorem Tokenizer.Ready.discardThrough {dialect : Dialect} {t : Tokenizer}
    (ready : t.Ready dialect) : (t.discardThrough dialect.separator).result = .ok () ∧
      (t.discardThrough dialect.separator).tokens.stream =
        Script.dropThroughSeparator t.stream := by
  obtain ⟨rfl, usable, whole, normal⟩ := ready
  exact discardThrough_separator usable whole normal

/-- A session as a conversation over the list of its tokens and faults. -/
def Session.scripted (s : Session) : ScriptSession :=
  ⟨s.settings, s.tokens.stream, s.table, s.out, s.err⟩

def Turn.scripted (turn : Turn) : ScriptTurn :=
  ⟨turn.how, turn.session.scripted, turn.out, turn.err, announcements turn.trace⟩

def Report.scripted (report : Report) : ScriptReport :=
  ⟨report.result, report.session.scripted, report.out, report.err, announcements report.trace⟩

namespace Session

/-- A session that goes on in the same settings with a tokenizer that is ready. -/
def Goes (s after : Session) : Prop :=
  after.settings = s.settings ∧ after.tokens.Ready s.settings.dialect

theorem scripted_showValue (s : Session) (evaluated : Evaluated) (tokens : Tokenizer) :
    (s.showValue evaluated tokens).scripted = s.scripted.showValue evaluated tokens.stream := rfl

theorem scripted_recover {s : Session} {tokens : Tokenizer} (fault : Fault)
    (ready : tokens.Ready s.settings.dialect) :
    (s.recover fault tokens).scripted = s.scripted.recover fault tokens.stream ∧
      s.Goes (s.recover fault tokens).session := by
  obtain ⟨done, dropped⟩ := ready.discardThrough
  have calm := calm_discardThrough s.settings.dialect.separator tokens
  have quiet := calm.2.2
  unfold recover ScriptSession.recover
  by_cases complete : (s.err.write (fault.message ++ "\n")).complete = true
  · have told : (s.scripted.err.write (fault.message ++ "\n")).complete = true := complete
    simp only [complete, told, ↓reduceIte, Turn.scripted, done]
    refine ⟨?_, rfl, ready.of_calm calm⟩
    have announced : announcements (.failed fault :: (tokens.discardThrough
        s.settings.dialect.separator).trace) = [.fault fault] := by
      show .fault fault :: announcements _ = _
      rw [quiet]
    rw [announced, scripted, dropped]
    rfl
  · have told : ¬(s.scripted.err.write (fault.message ++ "\n")).complete = true := complete
    simp only [complete, told, Bool.false_eq_true, ↓reduceIte]
    exact ⟨rfl, rfl, ready⟩

theorem scripted_conclude {s : Session} {tokens : Tokenizer} (result : Except Fault Evaluated)
    (ready : tokens.Ready s.settings.dialect) :
    (s.conclude result tokens).scripted = s.scripted.conclude ⟨result, tokens.stream⟩ ∧
      s.Goes (s.conclude result tokens).session := by
  unfold conclude ScriptSession.conclude
  cases result with
  | ok evaluated => exact ⟨scripted_showValue s evaluated tokens, rfl, ready⟩
  | error fault =>
    by_cases recoverable : fault.recoverable = true
    · simp only [recoverable, ↓reduceIte]
      exact scripted_recover fault ready
    · simp only [recoverable, Bool.false_eq_true, ↓reduceIte]
      by_cases ended : fault = .endOfInput
      · simp only [ended, ↓reduceIte]
        exact ⟨rfl, rfl, ready⟩
      · simp only [ended, ↓reduceIte]
        exact ⟨rfl, rfl, ready⟩

theorem scripted_finish {s : Session} {first : Step Token} (ending : Ending)
    (calm : Calm s.tokens first.trace first.tokens) (ready : s.tokens.Ready s.settings.dialect) :
    ({ how := .finished ending, session := { s with tokens := first.tokens },
       trace := first.trace } : Turn).scripted =
      { how := .finished ending, session := { s.scripted with script := first.tokens.stream } } ∧
    s.Goes { s with tokens := first.tokens } := by
  refine ⟨?_, rfl, ready.of_calm calm⟩
  rw [Turn.scripted, calm.2.2]
  rfl

theorem answer_statement {s : Session}
    (noEnd : s.tokens.firstToken.result ≠ .error .endOfInput)
    (noQuit : s.tokens.firstToken.result ≠ .ok (.keyword .quit)) :
    s.answer =
      let statement := Tokenizer.statementAt s.table s.tokens.firstToken
      let turn := s.conclude statement.result statement.tokens
      { turn with trace := statement.trace ++ turn.trace } := by
  unfold answer
  dsimp only
  split
  next ended => exact absurd ended noEnd
  next quits => exact absurd quits noQuit
  next => rfl

theorem scripted_answer {s : Session} (ready : s.tokens.Ready s.settings.dialect) :
    s.answer.scripted = s.scripted.answer ∧ s.Goes s.answer.session := by
  have calm := journey_calm.firstToken s.tokens
  have read : Script.firstToken s.scripted.script = s.tokens.firstToken.reading :=
    (Tokenizer.reading_firstToken s.tokens).symm
  have statement : Script.statementAt s.scripted.table s.tokens.firstToken.reading =
      (Tokenizer.statementAt s.table s.tokens.firstToken).reading := by
    rw [← read]
    exact (Tokenizer.reading_statementAt s.table s.tokens).symm
  by_cases ended : s.tokens.firstToken.result = .error .endOfInput
  · simp only [answer, ScriptSession.answer, ScriptSession.answerTo, read, Step.reading, ended]
    exact scripted_finish .endOfInput calm ready
  by_cases quits : s.tokens.firstToken.result = .ok (.keyword .quit)
  · simp only [answer, ScriptSession.answer, ScriptSession.answerTo, read, Step.reading, quits]
    exact scripted_finish .quit calm ready
  · have forward := journey_calm.statementAt s.table s.tokens
    obtain ⟨same, goes⟩ := scripted_conclude
      (Tokenizer.statementAt s.table s.tokens.firstToken).result (ready.of_calm forward)
    rw [answer_statement ended quits, ScriptSession.answer, read,
      ScriptSession.answerTo_statement ended quits, statement]
    refine ⟨Eq.trans ?_ same, goes⟩
    rw [Turn.scripted, Turn.scripted, announcements_append, forward.2.2, List.nil_append]

theorem scripted_turn {s : Session} (ready : s.tokens.Ready s.settings.dialect) :
    s.turn.scripted = s.scripted.turn ∧ s.Goes s.turn.session := by
  unfold turn ScriptSession.turn
  by_cases complete : (s.out.write s.settings.prompt).complete = true
  · have shown : (s.scripted.out.write s.scripted.settings.prompt).complete = true := complete
    obtain ⟨same, goes⟩ := scripted_answer
      (s := { s with out := (s.out.write s.settings.prompt).sink }) ready
    simp only [complete, shown, ↓reduceIte]
    refine ⟨?_, goes⟩
    exact congrArg (fun turn : ScriptTurn =>
      { turn with out := (s.out.write s.settings.prompt).kept ++ turn.out }) same
  · have shown : ¬(s.scripted.out.write s.scripted.settings.prompt).complete = true := complete
    simp only [complete, shown, Bool.false_eq_true, ↓reduceIte]
    exact ⟨rfl, rfl, ready⟩

theorem scripted_after (turn : Turn) (report : Report) :
    (report.after turn).scripted = report.scripted.after turn.scripted := by
  rw [Report.scripted, Report.after, announcements_append]
  rfl

theorem runFrom_eq (s : Session) (evaluated failed : Nat) : s.runFrom evaluated failed =
    match s.turn.how with
    | .evaluated => (s.turn.session.runFrom (evaluated + 1) failed).after s.turn
    | .failed => (s.turn.session.runFrom evaluated (failed + 1)).after s.turn
    | .finished ending => ⟨.ok ⟨ending, evaluated, failed⟩, s.turn.session, s.turn.out, s.turn.err,
        s.turn.trace ++ [.finished ⟨ending, evaluated, failed⟩]⟩
    | .broken fault => ⟨.error fault, s.turn.session, s.turn.out, s.turn.err, s.turn.trace⟩ := by
  rw [runFrom]
  split
  next h => simp only [h]
  next h => simp only [h]
  next h => simp only [h]
  next h => simp only [h]

theorem Goes.trans {s after last : Session} (first : s.Goes after) (second : after.Goes last) :
    s.Goes last := by
  obtain ⟨settings, _⟩ := first
  obtain ⟨settings', ready⟩ := second
  exact ⟨settings'.trans settings, settings ▸ ready⟩

theorem Goes.ready {s after : Session} (goes : s.Goes after) :
    after.tokens.Ready after.settings.dialect := by
  obtain ⟨settings, ready⟩ := goes
  rwa [settings]

/-- A run is a run on the list of tokens, and keeps the tokenizer ready. -/
theorem scripted_runFrom {s : Session} (ready : s.tokens.Ready s.settings.dialect)
    (evaluated failed : Nat) :
    (s.runFrom evaluated failed).scripted = s.scripted.runFrom evaluated failed ∧
      s.Goes (s.runFrom evaluated failed).session := by
  obtain ⟨same, goes⟩ := scripted_turn ready
  have how : s.scripted.turn.how = s.turn.how := by rw [← same]; rfl
  have left : s.scripted.turn.session = s.turn.session.scripted := by rw [← same]; rfl
  rw [runFrom_eq, ScriptSession.runFrom_eq, how, left, ← same]
  cases h : s.turn.how with
  | evaluated =>
    have less := size_turn (Or.inl h)
    obtain ⟨more, onward⟩ := scripted_runFrom goes.ready (evaluated + 1) failed
    dsimp only
    rw [scripted_after, more]
    exact ⟨rfl, goes.trans onward⟩
  | failed =>
    have less := size_turn (Or.inr h)
    obtain ⟨more, onward⟩ := scripted_runFrom goes.ready evaluated (failed + 1)
    dsimp only
    rw [scripted_after, more]
    exact ⟨rfl, goes.trans onward⟩
  | finished ending =>
    refine ⟨?_, goes⟩
    dsimp only
    rw [Report.scripted, announcements_append]
    exact congrArg (ScriptReport.mk _ _ _ _) (List.append_nil _)
  | broken fault => exact ⟨rfl, goes⟩
termination_by s.tokens.size

/-- Some runs in a row, each on what the one before it left. -/
def runs : Nat → Session → List Report
  | 0, _ => []
  | n + 1, s => s.run :: runs n s.run.session

end Session

def ScriptSession.runs : Nat → ScriptSession → List ScriptReport
  | 0, _ => []
  | n + 1, s => s.run :: runs n s.run.session

theorem Session.scripted_runs (n : Nat) {s : Session} (ready : s.tokens.Ready s.settings.dialect) :
    (s.runs n).map Report.scripted = s.scripted.runs n := by
  induction n generalizing s with
  | zero => rfl
  | succ n ih =>
    obtain ⟨same, goes⟩ : s.run.scripted = s.scripted.run ∧ s.Goes s.run.session :=
      scripted_runFrom ready 0 0
    have left : s.scripted.run.session = s.run.session.scripted := by
      rw [← same]
      rfl
    rw [runs, List.map_cons, ih goes.ready, ScriptSession.runs, left]
    exact congrArg (· :: _) same

/-- The tokens and faults of a text. -/
def scriptOf (dialect : Dialect) (bytes : List UInt8) : Script :=
  (Tokenizer.ofSource dialect (.ofBytes bytes none)).stream

theorem Session.start_eq {settings : Settings} (accepted : settings.dialect.check = .ok ())
    (source : Source) (out err : Sink) : start settings source out err = .ok ⟨settings,
      .ofSource settings.dialect source,
      if settings.withConstants then .withConstants else .empty, out, err⟩ := by
  rw [start, accepted]
  rfl

theorem Tokenizer.ready_ofBytes {dialect : Dialect} (accepted : dialect.check = .ok ())
    (bytes : List UInt8) : (ofSource dialect (.ofBytes bytes none)).Ready dialect :=
  ⟨rfl, Dialect.check_eq_ok.mp accepted, Source.whole_ofBytes bytes, rfl⟩

/-- What a session does is determined by the tokens and faults of its text, and skipping characters
after a fault agrees with dropping tokens. -/
theorem session_is_function_of_tokens {settings : Settings}
    (accepted : settings.dialect.check = .ok ()) (bytes : List UInt8) (out err : Sink) :
    ∃ s, Session.start settings (.ofBytes bytes none) out err = .ok s ∧
      (∀ n, (s.runs n).map Report.scripted = ScriptSession.runs n
        ⟨settings, scriptOf settings.dialect bytes, s.table, out, err⟩) ∧
      (∀ other t, Session.start settings (.ofBytes other none) out err = .ok t →
        scriptOf settings.dialect other = scriptOf settings.dialect bytes →
        ∀ n, (t.runs n).map Report.scripted = (s.runs n).map Report.scripted) ∧
      ∀ t : Tokenizer, t.Ready settings.dialect →
        (t.discardThrough settings.dialect.separator).result = .ok () ∧
          (t.discardThrough settings.dialect.separator).tokens.stream =
            Script.dropThroughSeparator t.stream := by
  refine ⟨_, Session.start_eq accepted _ out err, ?_, ?_, fun t ready => ready.discardThrough⟩
  · intro n
    exact Session.scripted_runs n (Tokenizer.ready_ofBytes accepted bytes)
  · intro other t started same n
    rw [Session.start_eq accepted] at started
    cases started
    rw [Session.scripted_runs n (Tokenizer.ready_ofBytes accepted other),
      Session.scripted_runs n (Tokenizer.ready_ofBytes accepted bytes)]
    refine congrArg (ScriptSession.runs n) ?_
    simp only [Session.scripted]
    exact congrArg (ScriptSession.mk _ · _ _ _) same

theorem session_is_function_of_tokens_resynchronising : Dialect.check {} = .ok () ∧
    ∃ s, Session.start {} (.ofBytes (encodeUtf8 "1 + ; let 2..5; (3;quit") none) .unlimited
        .unlimited = .ok s ∧
      (∀ n, (s.runs n).map Report.scripted = ScriptSession.runs n
        ⟨{}, scriptOf {} (encodeUtf8 "1 + ; let 2..5; (3;quit"), s.table, .unlimited,
          .unlimited⟩) ∧
      (∀ other t, Session.start {} (.ofBytes other none) .unlimited .unlimited = .ok t →
        scriptOf {} other = scriptOf {} (encodeUtf8 "1 + ; let 2..5; (3;quit") →
        ∀ n, (t.runs n).map Report.scripted = (s.runs n).map Report.scripted) ∧
      ∀ t : Tokenizer, t.Ready {} → (t.discardThrough ';').result = .ok () ∧
        (t.discardThrough ';').tokens.stream = Script.dropThroughSeparator t.stream :=
  ⟨rfl, session_is_function_of_tokens rfl _ _ _⟩

end Calculator
