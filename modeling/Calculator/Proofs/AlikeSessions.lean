import Calculator.Proofs.TextPositions

namespace Calculator

namespace Tokenizer

variable {dialect : Dialect} {t u : Tokenizer}

/-- Tokenizers with the same tokens to come and the same end behind them. How the characters lie in
their lines, and whether a token was given back, makes no difference. -/
structure Alike (dialect : Dialect) (t u : Tokenizer) : Prop where
  first : t.Intact dialect
  second : u.Intact dialect
  stream : t.stream = u.stream
  failure : t.source.failure = u.source.failure

theorem Alike.of_calm {v w : Tokenizer} {trace other : List Event} (h : Alike dialect t u)
    (first : Calm t trace v) (second : Calm u other w) (stream : v.stream = w.stream) :
    Alike dialect v w := by
  refine ⟨h.first.of_calm first, h.second.of_calm second, stream, ?_⟩
  rw [first.2.1.failure, second.2.1.failure, h.failure]

theorem Alike.firstToken (h : Alike dialect t u) :
    t.firstToken.reading = u.firstToken.reading := by
  rw [reading_firstToken, reading_firstToken, h.stream]

theorem Alike.statementAt (h : Alike dialect t u) (table : SymbolTable) :
    (Tokenizer.statementAt table t.firstToken).reading =
      (Tokenizer.statementAt table u.firstToken).reading := by
  rw [reading_statementAt, reading_statementAt, h.stream]

/-- What is found depends on the tokens to come only. -/
theorem Alike.find (h : Alike dialect t u) (table : SymbolTable) :
    (t.find table).finding = (u.find table).finding ∧
      Alike dialect (t.find table).tokens (u.find table).tokens := by
  have first := congrArg Reading.result h.firstToken
  have firstRest := congrArg Reading.rest h.firstToken
  have result := congrArg Reading.result (h.statementAt table)
  have rest := congrArg Reading.rest (h.statementAt table)
  -- Both look at the same first token, so both take the same branch.
  have same : (t.find table).finding = (u.find table).finding ∧
      (t.find table).tokens.stream = (u.find table).tokens.stream := by
    by_cases ended : t.firstToken.result = .error .endOfInput
    · rw [find_of_ended ended, find_of_ended (first.symm.trans ended)]
      exact ⟨rfl, firstRest⟩
    by_cases quits : t.firstToken.result = .ok (.keyword .quit)
    · rw [find_of_quits quits, find_of_quits (first.symm.trans quits)]
      exact ⟨rfl, firstRest⟩
    · have more : u.firstToken.result ≠ .error .endOfInput := fun h => ended (first.trans h)
      have stays : u.firstToken.result ≠ .ok (.keyword .quit) := fun h => quits (first.trans h)
      rw [find_of_statement ended quits, find_of_statement more stays]
      exact ⟨congrArg Finding.ofResult result, rest⟩
  exact ⟨same.1, h.of_calm (calm_find table t) (calm_find table u) same.2⟩

/-- What skipping comes to depends on the tokens to come only, and on how the source ends. -/
theorem Alike.discardThrough (h : Alike dialect t u) :
    (t.discardThrough dialect.separator).result = (u.discardThrough dialect.separator).result ∧
      Alike dialect (t.discardThrough dialect.separator).tokens
        (u.discardThrough dialect.separator).tokens := by
  obtain ⟨_, found, missing⟩ := h.first.discardThrough
  obtain ⟨_, found', missing'⟩ := h.second.discardThrough
  rw [← h.stream] at found' missing'
  have ending := Source.ending_congr h.failure
  have same : (t.discardThrough dialect.separator).result =
        (u.discardThrough dialect.separator).result ∧
      (t.discardThrough dialect.separator).tokens.stream =
        (u.discardThrough dialect.separator).tokens.stream := by
    by_cases listed : Script.separator ∈ t.stream
    · obtain ⟨done, dropped, _⟩ := found listed
      obtain ⟨done', dropped', _⟩ := found' listed
      exact ⟨done.trans done'.symm, dropped.trans dropped'.symm⟩
    · obtain ⟨_, ends, result⟩ := missing listed
      obtain ⟨_, ends', result'⟩ := missing' listed
      rw [h.failure] at result
      exact ⟨result.trans result'.symm, ends.trans (ending.trans ends'.symm)⟩
  exact ⟨same.1, h.of_calm (calm_discardThrough _ t) (calm_discardThrough _ u) same.2⟩

theorem Alike.of_unread (first : t.Intact dialect) (second : u.Intact dialect)
    (free : t.held = none) (free' : u.held = none)
    (unread : t.source.unread = u.source.unread)
    (failure : t.source.failure = u.source.failure) : Alike dialect t u := by
  obtain ⟨lexemes, cut⟩ := exists_segmented first.usable t.source.unread
  have listed := first.stream_of_segmented cut free rfl
  have listed' := second.stream_of_segmented cut free' unread.symm
  have ending := Source.ending_congr failure
  exact ⟨first, second, by rw [listed, listed', ending], failure⟩

end Tokenizer

namespace Session

variable {s r : Session}

/-- Sessions that differ in nothing but how their tokens to come are stored. -/
structure Alike (s r : Session) : Prop where
  settings : s.settings = r.settings
  tokens : s.tokens.Alike s.settings.dialect r.tokens
  table : s.table = r.table
  out : s.out = r.out
  err : s.err = r.err

end Session

/-- Turns that nobody can tell apart. -/
structure Turn.Alike (turn other : Turn) : Prop where
  how : turn.how = other.how
  session : turn.session.Alike other.session
  out : turn.out = other.out
  err : turn.err = other.err
  announced : announcements turn.trace = announcements other.trace

/-- Runs that nobody can tell apart. -/
structure Report.Alike (report other : Report) : Prop where
  result : report.result = other.result
  session : report.session.Alike other.session
  out : report.out = other.out
  err : report.err = other.err
  announced : announcements report.trace = announcements other.trace

theorem Report.Alike.after {report other : Report} {turn twin : Turn} (h : report.Alike other)
    (g : turn.Alike twin) : (report.after turn).Alike (other.after twin) := by
  obtain ⟨result, session, out, err, announced⟩ := h
  refine ⟨result, session, ?_, ?_, ?_⟩
  · simp only [Report.after, g.out, out]
  · simp only [Report.after, g.err, err]
  · simp only [Report.after, announcements_append, g.announced, announced]

namespace Session

variable {s r : Session}

theorem Alike.prompted (h : s.Alike r) : s.prompted.Alike r.prompted :=
  ⟨h.settings, h.tokens, h.table, by rw [Session.prompted, Session.prompted, h.out, h.settings],
    h.err⟩

theorem Alike.showValue (h : s.Alike r) (evaluated : Evaluated) {tokens others : Tokenizer}
    (same : tokens.Alike s.settings.dialect others) :
    (s.showValue evaluated tokens).Alike (r.showValue evaluated others) := by
  have shown : s.out.write (s.settings.resultMarker ++ floatText evaluated.value ++ "\n") =
      r.out.write (r.settings.resultMarker ++ floatText evaluated.value ++ "\n") := by
    rw [h.out, h.settings]
  unfold Session.showValue
  rw [shown]
  exact ⟨rfl, ⟨h.settings, same, rfl, rfl, h.err⟩, rfl, rfl, rfl⟩

theorem Alike.recover (h : s.Alike r) (fault : Fault) {tokens others : Tokenizer}
    (same : tokens.Alike s.settings.dialect others) :
    (s.recover fault tokens).Alike (r.recover fault others) := by
  obtain ⟨result, skipped⟩ := same.discardThrough
  have quiet := (calm_discardThrough s.settings.dialect.separator tokens).2.2
  have quiet' := (calm_discardThrough s.settings.dialect.separator others).2.2
  unfold Session.recover
  rw [← h.settings, ← h.err]
  dsimp only
  split
  next =>
    rw [result]
    refine ⟨rfl, ⟨rfl, skipped, h.table, h.out, rfl⟩, rfl, rfl, ?_⟩
    show .fault fault :: announcements _ = .fault fault :: announcements _
    rw [quiet, quiet']
  next => exact ⟨rfl, ⟨rfl, same, h.table, h.out, rfl⟩, rfl, rfl, rfl⟩

theorem Alike.tell (h : s.Alike r) {found other : Found} (finding : found.finding = other.finding)
    (tokens : found.tokens.Alike s.settings.dialect other.tokens)
    (quiet : announcements found.trace = []) (quiet' : announcements other.trace = []) :
    (s.tell found).Alike (r.tell other) := by
  have behind : ∀ turn twin : Turn, turn.Alike twin →
      (turn.behind found.trace).Alike (twin.behind other.trace) := by
    intro turn twin same
    refine ⟨same.how, same.session, same.out, same.err, ?_⟩
    rw [Turn.behind, Turn.behind, announcements_append, announcements_append, quiet, quiet',
      same.announced]
  have kept : ({ s with tokens := found.tokens } : Session).Alike { r with tokens := other.tokens } :=
    ⟨h.settings, tokens, h.table, h.out, h.err⟩
  unfold Session.tell
  rw [← finding]
  split
  next evaluated _ => exact behind _ _ (h.showValue evaluated tokens)
  next fault _ => exact behind _ _ (h.recover fault tokens)
  next => exact ⟨rfl, kept, rfl, rfl, quiet.trans quiet'.symm⟩
  next => exact ⟨rfl, kept, rfl, rfl, quiet.trans quiet'.symm⟩

theorem Alike.turn (h : s.Alike r) : s.turn.Alike r.turn := by
  have prompt : s.out.write s.settings.prompt = r.out.write r.settings.prompt := by
    rw [h.out, h.settings]
  by_cases prompted : (s.out.write s.settings.prompt).complete = true
  · have promptedToo : (r.out.write r.settings.prompt).complete = true := prompt ▸ prompted
    obtain ⟨finding, tokens⟩ := h.tokens.find s.table
    rw [turn_eq_tell prompted, turn_eq_tell promptedToo, ← h.table, ← prompt]
    have told := h.prompted.tell finding tokens (Tokenizer.calm_find s.table s.tokens).2.2
      (Tokenizer.calm_find s.table r.tokens).2.2
    exact ⟨told.how, told.session, congrArg (_ ++ ·) told.out, told.err, told.announced⟩
  · have promptedToo : ¬(r.out.write r.settings.prompt).complete = true := prompt ▸ prompted
    rw [Session.turn, Session.turn, if_neg prompted, if_neg promptedToo, ← prompt]
    exact ⟨rfl, ⟨h.settings, h.tokens, h.table, rfl, h.err⟩, rfl, rfl, rfl⟩

theorem Alike.runFrom {s r : Session} (h : s.Alike r) (evaluated failed : Nat) :
    (s.runFrom evaluated failed).Alike (r.runFrom evaluated failed) := by
  have same := h.turn
  rw [runFrom_eq s, runFrom_eq r, ← same.how]
  cases how : s.turn.how with
  | evaluated =>
    have less := size_turn (Or.inl how)
    exact (same.session.runFrom (evaluated + 1) failed).after same
  | failed =>
    have less := size_turn (Or.inr how)
    exact (same.session.runFrom evaluated (failed + 1)).after same
  | finished ending =>
    refine ⟨rfl, same.session, same.out, same.err, ?_⟩
    simp only [announcements_append, same.announced]
  | broken fault => exact ⟨rfl, same.session, same.out, same.err, same.announced⟩
termination_by s.tokens.size

end Session

end Calculator
