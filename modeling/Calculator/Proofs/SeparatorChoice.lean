import Calculator.Proofs.ExchangedCharacters
import Calculator.Proofs.SeparatedRuns
import Mathlib.Data.List.Forall2

namespace Calculator

variable {α β : Type} {exchange : Char → Char}

theorem recoverable_exchanged (exchange : Char → Char) (fault : Fault) :
    (fault.exchanged exchange).recoverable = fault.recoverable := by
  unfold Fault.exchanged
  split
  next => rfl
  next => rfl

/-- What a reading comes to on the script of a text whose characters are exchanged. -/
def Reading.exchanged (exchange : Char → Char) (reading : Reading α) : Reading α :=
  ⟨reading.result.mapError (Fault.exchanged exchange), Script.exchanged exchange reading.rest⟩

theorem Reading.exchanged_andThen {reading : Reading α} {f : α → Script → Reading β}
    (later : ∀ a rest, f a (Script.exchanged exchange rest) = (f a rest).exchanged exchange) :
    (reading.exchanged exchange).andThen f = (reading.andThen f).exchanged exchange := by
  obtain ⟨result, rest⟩ := reading
  cases result with
  | ok a => exact later a rest
  | error fault => rfl

/-- A fault that shows no character of the text stays what it is. -/
theorem Reading.exchanged_settle {result : Except Fault α}
    (plain : result.mapError (Fault.exchanged exchange) = result) (rest : Script) :
    (⟨result, Script.exchanged exchange rest⟩ : Reading α) =
      (⟨result, rest⟩ : Reading α).exchanged exchange := by
  rw [Reading.exchanged, plain]

namespace Script

theorem exchanged_error (fault : Fault) (rest : Script) :
    (⟨.error (fault.exchanged exchange), if (fault.exchanged exchange).recoverable then
        exchanged exchange rest
      else .error (fault.exchanged exchange) :: exchanged exchange rest⟩ : Reading α) =
      Reading.exchanged exchange
        ⟨.error fault, if fault.recoverable then rest else .error fault :: rest⟩ := by
  rw [recoverable_exchanged]
  cases fault.recoverable <;> rfl

theorem next_exchanged (script : Script) :
    next (exchanged exchange script) = (next script).exchanged exchange := by
  match script with
  | [] => rfl
  | .ok token :: rest => rfl
  | .error fault :: rest => exact exchanged_error fault rest

/-- An evaluation looks at tokens only, and no fault of its own shows a character. -/
theorem evaluate_exchanged (table : SymbolTable) (phase : Phase) (frames : List Frame)
    (script : Script) : evaluate table phase frames (exchanged exchange script) =
      (evaluate table phase frames script).exchanged exchange := by
  induction script generalizing phase frames with
  | nil => rfl
  | cons first rest ih =>
    cases first with
    | error fault => exact exchanged_error fault rest
    | ok token =>
      have listed : exchanged exchange (.ok token :: rest) = .ok token :: exchanged exchange rest :=
        rfl
      rw [listed, evaluate_cons, evaluate_cons]
      cases move : phase.move table frames token with
      | goOn phase frames => exact ih phase frames
      | accept value => rfl
      | refuse fault givenBack =>
        have plain : fault.exchanged exchange = fault := by
          cases refusal_of_move move <;> rfl
        rw [follow, follow, Reading.exchanged, Except.mapError, plain]
        cases givenBack <;> rfl

theorem mapError_declare (table : SymbolTable) (name : String) (value : Float) :
    (table.declare name value).mapError (Fault.exchanged exchange) = table.declare name value := by
  cases declared : table.declare name value with
  | ok after => rfl
  | error fault =>
    rw [declare_error declared]
    rfl

theorem declaration_exchanged (table : SymbolTable) (script : Script) :
    declaration table (exchanged exchange script) =
      (declaration table script).exchanged exchange := by
  unfold declaration
  rw [next_exchanged]
  refine Reading.exchanged_andThen fun token rest => ?_
  split
  next name =>
    rw [next_exchanged]
    refine Reading.exchanged_andThen fun sign rest => ?_
    split
    next =>
      rw [expression, evaluate_exchanged]
      refine Reading.exchanged_andThen fun value rest => ?_
      rw [Reading.exchanged_settle (mapError_declare table name value)]
      exact Reading.exchanged_andThen fun _ _ => rfl
    next => rfl
  next => rfl

theorem statement_exchanged (table : SymbolTable) (script : Script) :
    statement table (exchanged exchange script) =
      (statement table script).exchanged exchange := by
  unfold statement
  rw [next_exchanged]
  refine Reading.exchanged_andThen fun token rest => ?_
  split
  next => exact declaration_exchanged table rest
  next =>
    have read : expression table (.ok token :: exchanged exchange rest) =
        (expression table (.ok token :: rest)).exchanged exchange :=
      evaluate_exchanged table .operand [] (.ok token :: rest)
    rw [read]
    exact Reading.exchanged_andThen fun _ _ => rfl

theorem statementAt_exchanged (table : SymbolTable) (first : Reading Token) :
    statementAt table (first.exchanged exchange) =
      (statementAt table first).exchanged exchange :=
  Reading.exchanged_andThen fun token rest => statement_exchanged table (.ok token :: rest)

theorem firstToken_exchanged (script : Script) :
    firstToken (exchanged exchange script) = (firstToken script).exchanged exchange := by
  induction script with
  | nil => rfl
  | cons first rest ih =>
    cases first with
    | error fault => exact next_exchanged (.error fault :: rest)
    | ok token =>
      by_cases same : token = .punct .separator
      · subst same
        exact ih
      · have plain (more : Script) : firstToken (.ok token :: more) = ⟨.ok token, more⟩ := by
          rw [firstToken_eq, next, Reading.andThen_ok]
          split
          next => exact absurd rfl same
          next => rfl
        rw [plain]
        exact plain (exchanged exchange rest)

/-- The next separator is at the same place. -/
theorem dropThroughSeparator_exchanged (script : Script) :
    dropThroughSeparator (exchanged exchange script) =
      exchanged exchange (dropThroughSeparator script) := by
  induction script with
  | nil => rfl
  | cons first rest ih =>
    by_cases same : first = separator
    · subst same
      rfl
    · have elsewhere : first.mapError (Fault.exchanged exchange) ≠ separator := by
        cases first with
        | ok token => exact same
        | error fault => exact fun h => by cases h
      rw [dropThroughSeparator_of_ne same, ← ih]
      exact dropThroughSeparator_of_ne elsewhere (exchanged exchange rest)

end Script

def Announcement.exchanged (exchange : Char → Char) : Announcement → Announcement
  | .value total => .value total
  | .fault cause => .fault (cause.exchanged exchange)

/-- Conversations on a script and on the script of the exchanged text. Messages may differ in
length, so there has to be room for all of them. -/
structure ScriptSession.Exchanged (exchange : Char → Char) (s r : ScriptSession) : Prop where
  prompt : r.settings.prompt = s.settings.prompt
  marker : r.settings.resultMarker = s.settings.resultMarker
  script : r.script = Script.exchanged exchange s.script
  table : r.table = s.table
  out : r.out = s.out
  err : s.err = .unlimited
  errToo : r.err = .unlimited

structure ScriptTurn.Exchanged (exchange : Char → Char) (turn twin : ScriptTurn) : Prop where
  how : twin.how = turn.how
  session : turn.session.Exchanged exchange twin.session
  out : twin.out = turn.out
  announced : twin.announced = turn.announced.map (Announcement.exchanged exchange)

structure ScriptReport.Exchanged (exchange : Char → Char) (report other : ScriptReport) :
    Prop where
  result : other.result = report.result
  session : report.session.Exchanged exchange other.session
  out : other.out = report.out
  announced : other.announced = report.announced.map (Announcement.exchanged exchange)

theorem ScriptReport.Exchanged.after {report other : ScriptReport} {turn twin : ScriptTurn}
    (h : report.Exchanged exchange other) (g : turn.Exchanged exchange twin) :
    (report.after turn).Exchanged exchange (other.after twin) := by
  obtain ⟨result, session, out, announced⟩ := h
  refine ⟨result, session, ?_, ?_⟩
  · simp only [ScriptReport.after, g.out, out]
  · simp only [ScriptReport.after, g.announced, announced, List.map_append]

/-- Only a fault that a session recovers from shows a character. -/
theorem exchanged_of_final {fault : Fault} (final : fault.recoverable = false) :
    fault.exchanged exchange = fault := by
  unfold Fault.exchanged
  split
  next => cases final
  next => rfl

namespace ScriptSession

variable {s r : ScriptSession}

theorem Exchanged.withScript (h : s.Exchanged exchange r) (script : Script) :
    (s.withScript script).Exchanged exchange (r.withScript (Script.exchanged exchange script)) :=
  ⟨h.prompt, h.marker, rfl, h.table, h.out, h.err, h.errToo⟩

theorem Exchanged.recover (h : s.Exchanged exchange r) (fault : Fault) (rest : Script) :
    (s.recover fault rest).Exchanged exchange
      (r.recover (fault.exchanged exchange) (Script.exchanged exchange rest)) := by
  rw [recover_of_unlimited h.err, recover_of_unlimited h.errToo,
    Script.dropThroughSeparator_exchanged]
  exact ⟨rfl, h.withScript _, rfl, rfl⟩

theorem Exchanged.showValue (h : s.Exchanged exchange r) (evaluated : Evaluated) (rest : Script) :
    (s.showValue evaluated rest).Exchanged exchange
      (r.showValue evaluated (Script.exchanged exchange rest)) := by
  unfold ScriptSession.showValue
  rw [h.out, h.marker]
  exact ⟨rfl, ⟨h.prompt, h.marker, rfl, rfl, rfl, h.err, h.errToo⟩, rfl, rfl⟩

theorem Exchanged.conclude (h : s.Exchanged exchange r) (statement : Reading Evaluated) :
    (s.conclude statement).Exchanged exchange (r.conclude (statement.exchanged exchange)) := by
  obtain ⟨result, rest⟩ := statement
  cases result with
  | ok evaluated => exact h.showValue evaluated rest
  | error fault =>
    have same : (Reading.exchanged exchange ⟨.error fault, rest⟩ : Reading Evaluated) =
      ⟨.error (fault.exchanged exchange), Script.exchanged exchange rest⟩ := rfl
    have recovers := recoverable_exchanged exchange fault
    rw [same]
    by_cases recoverable : fault.recoverable = true
    · rw [conclude_error s recoverable, conclude_error r (recovers.trans recoverable)]
      exact h.recover fault rest
    · have final : fault.recoverable = false := by simpa using recoverable
      simp only [ScriptSession.conclude, exchanged_of_final final, if_neg recoverable]
      exact ⟨rfl, h.withScript rest, rfl, rfl⟩

theorem Exchanged.answerTo (h : s.Exchanged exchange r) (first : Reading Token) :
    (s.answerTo first).Exchanged exchange (r.answerTo (first.exchanged exchange)) := by
  obtain ⟨result, rest⟩ := first
  by_cases ended : result = .error .endOfInput
  · subst ended
    exact ⟨rfl, h.withScript rest, rfl, rfl⟩
  by_cases quits : result = .ok (.keyword .quit)
  · subst quits
    exact ⟨rfl, h.withScript rest, rfl, rfl⟩
  -- The end of input shows no character, so no other fault is exchanged for it.
  have more : result.mapError (Fault.exchanged exchange) ≠ .error .endOfInput := by
    cases result with
    | ok token => exact fun h => by cases h
    | error fault =>
      intro h
      have final : fault.recoverable = false := by
        rw [← recoverable_exchanged exchange, Except.error.inj h]
        rfl
      exact ended (exchanged_of_final final ▸ h)
  have stays : result.mapError (Fault.exchanged exchange) ≠ .ok (.keyword .quit) := by
    cases result with
    | ok token => exact quits
    | error fault => exact fun h => by cases h
  rw [@answerTo_statement s ⟨result, rest⟩ ended quits,
    @answerTo_statement r (Reading.exchanged exchange ⟨result, rest⟩) more stays,
    Script.statementAt_exchanged, h.table]
  exact h.conclude _

theorem Exchanged.turn (h : s.Exchanged exchange r) : s.turn.Exchanged exchange r.turn := by
  have prompt : r.out.write r.settings.prompt = s.out.write s.settings.prompt := by
    rw [h.out, h.prompt]
  unfold ScriptSession.turn
  dsimp only
  rw [prompt]
  split
  next =>
    have prompted : Exchanged exchange { s with out := (s.out.write s.settings.prompt).sink }
        { r with out := (s.out.write s.settings.prompt).sink } :=
      ⟨h.prompt, h.marker, h.script, h.table, rfl, h.err, h.errToo⟩
    have answered := prompted.answerTo (Script.firstToken s.script)
    rw [← Script.firstToken_exchanged, ← h.script] at answered
    exact ⟨answered.how, answered.session, congrArg (_ ++ ·) answered.out, answered.announced⟩
  next => exact ⟨rfl, ⟨h.prompt, h.marker, h.script, h.table, rfl, h.err, h.errToo⟩, rfl, rfl⟩

theorem Exchanged.runFrom {s r : ScriptSession} (h : s.Exchanged exchange r)
    (evaluated failed : Nat) :
    (s.runFrom evaluated failed).Exchanged exchange (r.runFrom evaluated failed) := by
  have same := h.turn
  rw [runFrom_eq s, runFrom_eq r, same.how]
  cases how : s.turn.how with
  | evaluated =>
    have less := length_turn (Or.inl how)
    exact (same.session.runFrom (evaluated + 1) failed).after same
  | failed =>
    have less := length_turn (Or.inr how)
    exact (same.session.runFrom evaluated (failed + 1)).after same
  | finished ending => exact ⟨rfl, same.session, same.out, same.announced⟩
  | broken fault => exact ⟨rfl, same.session, same.out, same.announced⟩
termination_by s.script.length

theorem Exchanged.runs (n : Nat) {s r : ScriptSession} (h : s.Exchanged exchange r) :
    List.Forall₂ (ScriptReport.Exchanged exchange) (s.runs n) (r.runs n) := by
  induction n generalizing s r with
  | zero => exact .nil
  | succ n ih =>
    have first : s.run.Exchanged exchange r.run := h.runFrom 0 0
    exact .cons first (ih first.session)

end ScriptSession

/-- Runs that agree in all but the characters that bad tokens show. -/
structure Report.Exchanged (exchange : Char → Char) (report other : Report) : Prop where
  result : other.result = report.result
  out : other.out = report.out
  table : other.session.table = report.session.table
  announced : announcements other.trace =
    (announcements report.trace).map (Announcement.exchanged exchange)

theorem ScriptReport.Exchanged.report {report other : Report}
    (h : report.scripted.Exchanged exchange other.scripted) : report.Exchanged exchange other :=
  ⟨h.result, h.out, h.session.table, h.announced⟩

/-- The same settings with another separator. -/
def Settings.separatedBy (settings : Settings) (separator : Char) : Settings :=
  { settings with dialect := settings.dialect.separatedBy separator }

theorem Session.exchanged_runs {s r : Session} (ready : s.tokens.Ready s.settings.dialect)
    (readyToo : r.tokens.Ready r.settings.dialect)
    (h : s.scripted.Exchanged exchange r.scripted) (n : Nat) :
    List.Forall₂ (Report.Exchanged exchange) (s.runs n) (r.runs n) := by
  have reports := h.runs n
  rw [← scripted_runs n ready, ← scripted_runs n readyToo, List.forall₂_map_left_iff] at reports
  exact (List.forall₂_map_right_iff.mp reports).imp fun _ _ same => same.report

/-- It does not matter which character separates statements. Where it is exchanged with another one,
in the dialect as in the text, every run goes as before, and bad tokens are shown exchanged. -/
theorem separator_is_immaterial {settings : Settings} {separator : Char}
    (accepted : settings.dialect.check = .ok ())
    (acceptedToo : (settings.dialect.separatedBy separator).check = .ok ()) (text : String)
    (out : Sink) :
    ∃ s r, Session.start settings (.ofBytes (encodeUtf8 text) none) out .unlimited = .ok s ∧
      Session.start (settings.separatedBy separator)
        (.ofBytes (encodeUtf8 (text.map (exchanging settings.dialect.separator separator))) none)
        out .unlimited = .ok r ∧
      ∀ n, List.Forall₂ (Report.Exchanged (exchanging settings.dialect.separator separator))
        (s.runs n) (r.runs n) := by
  have exchanges := exchanges_exchanging (Dialect.check_eq_ok.mp accepted)
    (Dialect.check_eq_ok.mp acceptedToo)
  refine ⟨_, _, Session.start_eq accepted _ out .unlimited,
    @Session.start_eq (settings.separatedBy separator) acceptedToo _ out .unlimited,
    Session.exchanged_runs (Tokenizer.ready_ofBytes accepted _)
      (Tokenizer.ready_ofBytes acceptedToo _) ?_⟩
  exact ⟨rfl, rfl, exchanges.scriptOf_map text, rfl, rfl, rfl, rfl⟩

/-- Each character is the separator on one side and a bad token on the other. -/
theorem separator_is_immaterial_both : Dialect.check {} = .ok () ∧
    (Dialect.separatedBy {} '!').check = .ok () ∧
    ∃ s r, Session.start {} (.ofBytes (encodeUtf8 "1 ! 2; let a = 3;!a;") none) .unlimited
        .unlimited = .ok s ∧
      Session.start (Settings.separatedBy {} '!')
        (.ofBytes (encodeUtf8 ("1 ! 2; let a = 3;!a;".map (exchanging ';' '!'))) none) .unlimited
        .unlimited = .ok r ∧
      ∀ n, List.Forall₂ (Report.Exchanged (exchanging ';' '!')) (s.runs n) (r.runs n) :=
  ⟨rfl, rfl, @separator_is_immaterial {} '!' rfl rfl "1 ! 2; let a = 3;!a;" .unlimited⟩

end Calculator
