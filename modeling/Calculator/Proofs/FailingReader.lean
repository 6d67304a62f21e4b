import Calculator.Proofs.FailingTokens
import Calculator.Proofs.Findings

namespace Calculator

/-- An account of what happened in which no skipping came to the end of input. -/
def Unskipped (trace : List Event) : Prop := ∀ count, .skippedToEnd count ∉ trace

theorem Unskipped.append {first second : List Event} (h : Unskipped first)
    (g : Unskipped second) : Unskipped (first ++ second) :=
  fun count listed => (List.mem_append.mp listed).elim (h count) (g count)

theorem unskipped_nil : Unskipped [] := fun _ listed => by cases listed

theorem unskipped_singleton {event : Event} (other : ∀ count, event ≠ .skippedToEnd count) :
    Unskipped [event] := fun count listed => other count (List.mem_singleton.mp listed).symm

theorem journey_unskipped : Journey fun _ trace _ => Unskipped trace where
  stay _ := unskipped_nil
  trans := Unskipped.append
  next t := by
    unfold Tokenizer.next
    split
    next => exact unskipped_singleton fun _ => Event.noConfusion
    next =>
      split
      next => exact unskipped_singleton fun _ => Event.noConfusion
      next => exact unskipped_nil
  pushBack token t := by
    unfold Tokenizer.pushBack
    split
    next => exact unskipped_nil
    next => exact unskipped_singleton fun _ => Event.noConfusion
  operand _ _ := unskipped_singleton fun _ => Event.noConfusion
  declared _ _ _ := unskipped_singleton fun _ => Event.noConfusion

namespace Finding

variable {result : Except Fault Evaluated} {text : String}

theorem ofResult_ne_ending (more : result ≠ .error .endOfInput) (ending : Ending) :
    ofResult result ≠ .ending ending := by
  intro h
  unfold ofResult at h
  split at h
  next => cases h
  next =>
    split at h
    next => cases h
    next =>
      split at h
      next ended =>
        subst ended
        exact more rfl
      next => cases h

theorem mapError_orDevice (more : result ≠ .error .endOfInput) :
    result.mapError (Fault.orDevice text) = result := by
  cases result with
  | ok evaluated => rfl
  | error fault =>
    have other : fault ≠ .endOfInput := by
      rintro rfl
      exact more rfl
    exact congrArg Except.error (Fault.orDevice_of_ne other)

end Finding

namespace Tokenizer

variable {table : SymbolTable} {t : Tokenizer}

theorem unskipped_find (table : SymbolTable) (t : Tokenizer) :
    Unskipped (t.find table).trace := by
  rcases find_cases table t with ⟨ending, found⟩ | found
  · rw [found]
    exact journey_unskipped.firstToken t
  · rw [found]
    refine (journey_unskipped.statementAt table t).append ?_
    generalize Finding.ofResult _ = finding
    cases finding with
    | ending ending => exact unskipped_singleton fun _ => Event.noConfusion
    | _ => exact unskipped_nil

/-- What is found at the next statement is the same whether the source ends or fails behind its
lines, but for its end. -/
theorem find_failing (lined : t.Lined) (text : String) (table : SymbolTable) :
    ((t.find table).finding = .ending .endOfInput ∧
      ((t.failing text).find table).finding = .failure (.device text)) ∨
    ((t.find table).finding ≠ .ending .endOfInput ∧ (t.failing text).find table =
      { t.find table with tokens := (t.find table).tokens.failing text }) := by
  have first : (t.failing text).firstToken = t.firstToken.failing text := failing_firstToken lined
  have statement : statementAt table (t.failing text).firstToken =
      (statementAt table t.firstToken).failing text := failing_statementAt table lined
  have noEnd : (t.failing text).firstToken.result ≠ .error .endOfInput := by
    rw [first]
    exact Step.failing_ne_end _
  have quits_iff : (t.failing text).firstToken.result = .ok (.keyword .quit) ↔
      t.firstToken.result = .ok (.keyword .quit) := by
    rw [first]
    exact Step.failing_eq_ok
  by_cases quits : t.firstToken.result = .ok (.keyword .quit)
  · rw [find_of_quits quits, find_of_quits (quits_iff.mpr quits), first]
    exact Or.inr ⟨by simp, rfl⟩
  have noQuit := mt quits_iff.mp quits
  rw [find_of_statement noEnd noQuit, statement]
  by_cases ended : t.firstToken.result = .error .endOfInput
  · have failed : (statementAt table t.firstToken).result = .error .endOfInput := by
      rw [statementAt, Step.andThen_of_error ended]
    rw [find_of_ended ended]
    refine Or.inl ⟨rfl, ?_⟩
    simp only [Step.failing, failed]
    rfl
  · rw [find_of_statement ended quits]
    by_cases cut : (statementAt table t.firstToken).result = .error .endOfInput
    · simp only [Step.failing, cut]
      exact Or.inl ⟨rfl, rfl⟩
    · simp only [Step.failing, Finding.mapError_orDevice cut, and_true]
      exact Or.inr (Finding.ofResult_ne_ending cut .endOfInput)

end Tokenizer

/-- The session with a failure where its source ends. -/
def Session.failing (text : String) (s : Session) : Session :=
  { s with tokens := s.tokens.failing text }

/-- How a turn on a source that fails goes, beside the turn on the source that ends. -/
inductive Turn.Meets (text : String) (whole broken : Turn) : Prop where
  | same (turn : broken = { whole with session := whole.session.failing text })
    (goesOn : whole.how ≠ .finished .endOfInput) (unskipped : Unskipped whole.trace)
  | ending (how : whole.how = .finished .endOfInput) (unskipped : Unskipped whole.trace)
    (fails : broken.how = .broken (.device text)) (out : broken.out = whole.out)
    (err : broken.err = whole.err) (table : broken.session.table = whole.session.table)
  | skipping (how : whole.how = .failed) (skipped : ∃ count, .skippedToEnd count ∈ whole.trace)
    (left : whole.session.tokens.held = none ∧ whole.session.tokens.source.unread = [])
    (fails : broken.how = .broken (.device text)) (out : broken.out = whole.out)
    (err : broken.err = whole.err) (table : broken.session.table = whole.session.table)

/-- The prompt before a turn is the same. -/
theorem Turn.Meets.prompted {text : String} {whole broken : Turn} (h : whole.Meets text broken)
    (prompt : List UInt8) : Turn.Meets text { whole with out := prompt ++ whole.out }
      { broken with out := prompt ++ broken.out } := by
  cases h with
  | same turn goesOn unskipped =>
    subst turn
    exact .same rfl goesOn unskipped
  | ending how unskipped fails out err table =>
    exact .ending how unskipped fails (congrArg (prompt ++ ·) out) err table
  | skipping how skipped left fails out err table =>
    exact .skipping how skipped left fails (congrArg (prompt ++ ·) out) err table

namespace Session

variable {s : Session}

theorem Wide.failing (wide : s.Wide) (text : String) : (s.failing text).Wide :=
  ⟨wide.out, wide.err⟩

/-- Telling what was found meets a failure only where the rest of a statement is skipped. -/
theorem Wide.meets_tell_mistake (wide : s.Wide) {tokens : Tokenizer} {trace : List Event}
    (normal : tokens.source.failure = none) (unskipped : Unskipped trace) (text : String)
    (fault : Fault) : (s.tell ⟨.mistake fault, tokens, trace⟩).Meets text
      ((s.failing text).tell ⟨.mistake fault, tokens.failing text, trace⟩) := by
  rw [wide.tell_mistake, (wide.failing text).tell_mistake]
  have settings : (s.failing text).settings = s.settings := rfl
  simp only [settings]
  have failed : Unskipped [Event.failed fault] := unskipped_singleton fun _ => Event.noConfusion
  rcases Tokenizer.failing_discardThrough s.settings.dialect.separator normal text with
    ⟨same, skips, inside⟩ | ⟨breaks, skips, ⟨count, skipped⟩, left⟩
  · rw [same]
    refine .same ?_ (by simp [skips]) (unskipped.append (failed.append inside))
    simp only [Step.failing, skips]
    rfl
  · refine .skipping ?_ ⟨count, ?_⟩ left ?_ rfl rfl rfl
    · simp only [skips]
    · exact List.mem_append_right _ (List.mem_cons_of_mem _ skipped)
    · simp only [breaks]

theorem Wide.meets_tell (wide : s.Wide) {found : Found}
    (normal : found.tokens.source.failure = none) (unskipped : Unskipped found.trace)
    (more : found.finding ≠ .ending .endOfInput)
    (noFailure : ∀ fault, found.finding ≠ .failure fault) (text : String) :
    (s.tell found).Meets text
      ((s.failing text).tell { found with tokens := found.tokens.failing text }) := by
  obtain ⟨finding, tokens, trace⟩ := found
  cases finding with
  | value evaluated =>
    dsimp only
    rw [wide.tell_value, (wide.failing text).tell_value]
    refine .same rfl TurnEnd.noConfusion (unskipped.append ?_)
    exact unskipped_singleton fun _ => Event.noConfusion
  | mistake fault => exact wide.meets_tell_mistake normal unskipped text fault
  | ending ending =>
    refine .same rfl ?_ unskipped
    intro how
    exact more (congrArg Finding.ending (TurnEnd.finished.inj how))
  | failure fault => exact absurd rfl (noFailure fault)

theorem meets_tell_end {found failed : Found} {text : String}
    (ended : found.finding = .ending .endOfInput)
    (fails : failed.finding = .failure (.device text)) (unskipped : Unskipped found.trace) :
    (s.tell found).Meets text ((s.failing text).tell failed) := by
  obtain ⟨_, tokens, trace⟩ := found
  obtain ⟨_, tokens', trace'⟩ := failed
  cases ended
  cases fails
  exact .ending rfl unskipped rfl rfl rfl rfl

theorem Wide.meets_turn (wide : s.Wide) (lined : s.tokens.Lined) (text : String) :
    s.turn.Meets text (s.failing text).turn := by
  have unskipped := Tokenizer.unskipped_find s.table s.tokens
  have normal := (lined.of_calm (Tokenizer.calm_find s.table s.tokens)).normal
  have told : (s.tell (s.tokens.find s.table)).Meets text
      ((s.failing text).tell ((s.tokens.failing text).find s.table)) := by
    rcases Tokenizer.find_failing lined text s.table with ⟨ended, failed⟩ | ⟨more, found⟩
    · exact meets_tell_end ended failed unskipped
    · rw [found]
      exact wide.meets_tell normal unskipped more
        (fun _ => Tokenizer.find_ne_failure lined.normal) text
  rw [wide.turn_eq, (wide.failing text).turn_eq]
  exact told.prompted _

theorem result_of_finished {ending : Ending} (how : s.turn.how = .finished ending)
    (evaluated failed : Nat) :
    (s.runFrom evaluated failed).result = .ok ⟨ending, evaluated, failed⟩ := by
  rw [runFrom_eq, how]

/-- When nothing is left, a session writes its prompt and ends. -/
theorem Wide.runFrom_of_spent (wide : s.Wide) (normal : s.tokens.source.failure = none)
    (free : s.tokens.held = none) (used : s.tokens.source.unread = []) (evaluated failed : Nat) :
    (s.runFrom evaluated failed).result = .ok ⟨.endOfInput, evaluated, failed⟩ ∧
      (s.runFrom evaluated failed).out = encodeUtf8 s.settings.prompt ∧
      (s.runFrom evaluated failed).err = [] ∧
      (s.runFrom evaluated failed).session.table = s.table := by
  have blank : ∀ c ∈ s.tokens.source.unread, isWhitespace c := used ▸ List.forall_mem_nil _
  have ended : s.Ended :=
    ⟨normal, (Tokenizer.stream_of_blank free blank).trans (Source.ending_of_normal normal)⟩
  obtain ⟨_, table, err, ⟨result, out⟩ | ⟨limited, _⟩⟩ := ended.runFrom evaluated failed
  · exact ⟨result, out, err, table⟩
  · exact absurd wide.out limited

end Session

/-- How a run on a source that fails goes, beside the run on the source that ends. -/
inductive Report.Meets (text prompt : String) (whole broken : Report) : Prop where
  | same (quits : ∃ outcome, whole.result = .ok outcome ∧ outcome.ending = .quit)
    (report : broken = { whole with session := whole.session.failing text })
  | ending (ends : ∃ outcome, whole.result = .ok outcome ∧ outcome.ending = .endOfInput)
    (unskipped : Unskipped whole.trace) (fails : broken.result = .error (.device text))
    (out : broken.out = whole.out) (err : broken.err = whole.err)
    (table : broken.session.table = whole.session.table)
  | skipping (ends : ∃ outcome, whole.result = .ok outcome ∧ outcome.ending = .endOfInput)
    (skipped : ∃ count, .skippedToEnd count ∈ whole.trace)
    (fails : broken.result = .error (.device text))
    (out : whole.out = broken.out ++ encodeUtf8 prompt) (err : broken.err = whole.err)
    (table : broken.session.table = whole.session.table)

/-- A turn that does not meet the failure goes before a run that may. -/
theorem Report.Meets.after {text prompt : String} {whole broken : Report}
    (h : whole.Meets text prompt broken) {turn other : Turn}
    (same : other = { turn with session := turn.session.failing text })
    (unskipped : Unskipped turn.trace) :
    (whole.after turn).Meets text prompt (broken.after other) := by
  subst same
  cases h with
  | same quits report =>
    subst report
    exact .same quits rfl
  | ending ends more fails out err table =>
    exact .ending ends (unskipped.append more) fails (congrArg (turn.out ++ ·) out)
      (congrArg (turn.err ++ ·) err) table
  | skipping ends skipped fails out err table =>
    obtain ⟨count, skipped⟩ := skipped
    refine .skipping ends ⟨count, List.mem_append_right _ skipped⟩ fails ?_
      (congrArg (turn.err ++ ·) err) table
    rw [Report.after, out, ← List.append_assoc]
    rfl

namespace Session

/-- A run meets a failure of its source where it would meet the end. -/
theorem Wide.meets_runFrom {s : Session} (wide : s.Wide) (lined : s.tokens.Lined) (text : String)
    (evaluated failed : Nat) : (s.runFrom evaluated failed).Meets text s.settings.prompt
      ((s.failing text).runFrom evaluated failed) := by
  have onward := onward_turn s
  have next : s.turn.session.tokens.Lined :=
    ⟨lined.lines.of_leads onward.leads, Source.normal_of_leads lined.normal onward.leads⟩
  have goesOn (evaluations failures : Nat) (less : s.turn.session.tokens.size < s.tokens.size) :=
    wide.turn.meets_runFrom next text evaluations failures
  have steady (fault : Fault) : s.turn.how ≠ .broken fault :=
    turn_not_broken lined.normal wide.out wide.err
  rw [onward.settings] at goesOn
  rw [runFrom_eq s, runFrom_eq (s.failing text)]
  cases wide.meets_turn lined text with
  | same turn more unskipped =>
    have how : (s.failing text).turn.how = s.turn.how := by rw [turn]
    have left : (s.failing text).turn.session = s.turn.session.failing text := by rw [turn]
    rw [how, left]
    cases ends : s.turn.how with
    | evaluated => exact (goesOn _ _ (size_turn (Or.inl ends))).after turn unskipped
    | failed => exact (goesOn _ _ (size_turn (Or.inr ends))).after turn unskipped
    | finished ending =>
      cases ending with
      | quit => exact .same ⟨_, rfl, rfl⟩ (by rw [turn])
      | endOfInput => exact absurd ends more
    | broken fault => exact absurd ends (steady fault)
  | ending how unskipped fails out err table =>
    rw [how, fails]
    have finished : Unskipped [Event.finished ⟨.endOfInput, evaluated, failed⟩] :=
      unskipped_singleton fun _ => Event.noConfusion
    exact .ending ⟨_, rfl, rfl⟩ (unskipped.append finished) rfl out err table
  | skipping how skipped left fails out err table =>
    obtain ⟨count, skipped⟩ := skipped
    obtain ⟨result, lastOut, lastErr, lastTable⟩ :=
      wide.turn.runFrom_of_spent next.normal left.1 left.2 evaluated (failed + 1)
    rw [onward.settings] at lastOut
    rw [how, fails]
    dsimp only [Report.after]
    refine .skipping ⟨_, result, rfl⟩ ⟨count, List.mem_append_left _ skipped⟩ rfl ?_ ?_ ?_
    · rw [lastOut, out]
    · rw [lastErr, List.append_nil, err]
    · exact table.trans lastTable.symm
termination_by s.tokens.size

end Session

/-- A run whose source fails, beside the run on the whole lines before the failure: only the end
differs, and the prompt before it where the end is met while the rest of a statement is skipped. -/
structure Report.LosesNothing (text prompt : String) (whole broken : Report) : Prop where
  returns : ∃ outcome, whole.result = .ok outcome
  quits : ∀ evaluated failed, whole.result = .ok ⟨.quit, evaluated, failed⟩ →
    broken = { whole with session := whole.session.failing text }
  ends : ∀ evaluated failed, whole.result = .ok ⟨.endOfInput, evaluated, failed⟩ →
    broken.result = .error (.device text) ∧ broken.err = whole.err ∧
      broken.session.table = whole.session.table ∧
      (Unskipped whole.trace → broken.out = whole.out) ∧
      (¬Unskipped whole.trace → broken.out ++ encodeUtf8 prompt = whole.out)

theorem Report.Meets.losesNothing {text prompt : String} {whole broken : Report}
    (h : whole.Meets text prompt broken) : whole.LosesNothing text prompt broken := by
  cases h with
  | same quits report =>
    obtain ⟨outcome, result, quit⟩ := quits
    refine ⟨⟨outcome, result⟩, fun _ _ _ => report, fun _ _ ended => ?_⟩
    cases result.symm.trans ended
    cases quit
  | ending ends unskipped fails out err table =>
    obtain ⟨outcome, result, ended⟩ := ends
    refine ⟨⟨outcome, result⟩, fun _ _ quits => ?_, fun _ _ _ => ?_⟩
    · cases result.symm.trans quits
      cases ended
    · exact ⟨fails, err, table, fun _ => out, fun skipped => absurd unskipped skipped⟩
  | skipping ends skipped fails out err table =>
    obtain ⟨outcome, result, ended⟩ := ends
    obtain ⟨count, skipped⟩ := skipped
    refine ⟨⟨outcome, result⟩, fun _ _ quits => ?_, fun _ _ _ => ?_⟩
    · cases result.symm.trans quits
      cases ended
    · exact ⟨fails, err, table, fun unskipped => absurd skipped (unskipped count),
        fun _ => out.symm⟩

/-- Where reading a token is broken off, no token waits and nothing but blanks is left. -/
theorem Tokenizer.blank_of_next_failing {t : Tokenizer} {text : String} {fault : Fault}
    (lined : t.source.Lined) (fails : t.source.failure = some text)
    (broken : t.next.result = .error fault) (final : fault.recoverable = false) :
    fault = .device text ∧ t.held = none ∧ ∀ c ∈ t.source.unread, isWhitespace c := by
  obtain ⟨dialect, source, held⟩ := t
  cases held with
  | some token => cases broken
  | none =>
    -- The same source without its failure ends behind its lines.
    have whole : Source.Lined { source with failure := none } := lined
    have split : source = Source.failing text { source with failure := none } := by
      rw [Source.failing, ← fails]
    simp only [next] at broken
    cases run : source.token dialect with
    | ok taken rest =>
      rw [run] at broken
      cases broken
    | error reason rest =>
      rw [run] at broken
      cases broken
      rw [split] at run
      obtain ⟨device, blank⟩ := Source.blank_of_token_failing whole rfl run final
      exact ⟨device, rfl, blank⟩

/-- A source that fails loses nothing that was read and shows its failure no earlier than needed.
Reading a token is broken off only where nothing but blanks is left, so never inside a lexeme. -/
theorem failing_source_loses_nothing {settings : Settings}
    (accepted : settings.dialect.check = .ok ()) (bytes : List UInt8) (text : String) :
    ∃ whole broken, Session.start settings (.ofBytes (wholeLines bytes) none) .unlimited
        .unlimited = .ok whole ∧
      Session.start settings (.ofBytes bytes (some text)) .unlimited .unlimited = .ok broken ∧
      whole.run.LosesNothing text settings.prompt broken.run ∧
      ∀ t : Tokenizer, broken.tokens.source.Leads t.source → ∀ fault,
        t.next.result = .error fault → fault.recoverable = false →
          fault = .device text ∧ t.held = none ∧ ∀ c ∈ t.source.unread, isWhitespace c := by
  have lines := Source.lined_wholeLines bytes
  refine ⟨_, _, Session.start_eq accepted _ _ _, Session.start_eq accepted _ _ _, ?_, ?_⟩
  · have wide : Session.Wide ⟨settings,
        .ofSource settings.dialect (.ofBytes (wholeLines bytes) none),
        if settings.withConstants then .withConstants else .empty, .unlimited, .unlimited⟩ :=
      ⟨rfl, rfl⟩
    rw [Source.ofBytes_failing]
    exact (wide.meets_runFrom ⟨lines, rfl⟩ text 0 0).losesNothing
  · intro t leads fault broken final
    rw [Source.ofBytes_failing] at leads
    have same : (Source.failing text (.ofBytes (wholeLines bytes) none)).Lined := lines
    exact Tokenizer.blank_of_next_failing (same.of_leads leads) leads.failure broken final

/-- A source that fails inside its second line is cut off behind the first. -/
theorem failing_source_loses_nothing_pi : Dialect.check {} = .ok () ∧
    ∃ whole broken, Session.start {} (.ofBytes (wholeLines (encodeUtf8 "pi\n2;")) none) .unlimited
        .unlimited = .ok whole ∧
      Session.start {} (.ofBytes (encodeUtf8 "pi\n2;") (some "unplugged")) .unlimited .unlimited =
        .ok broken ∧
      whole.run.result = .ok ⟨.endOfInput, 0, 0⟩ ∧
      broken.run.result = .error (.device "unplugged") ∧ broken.run.err = whole.run.err := by
  obtain ⟨whole, broken, started, brokenToo, loses, _⟩ :=
    @failing_source_loses_nothing {} rfl (encodeUtf8 "pi\n2;") "unplugged"
  have first : wholeLines (encodeUtf8 "pi\n2;") = encodeUtf8 "pi\n" := by decide
  have ends : whole.run.result = .ok ⟨.endOfInput, 0, 0⟩ := by
    rw [first, Session.start_eq rfl] at started
    cases started
    have name : Lexeme {} "pi".toList "\n".toList (.ok (.identifier "pi")) :=
      .identifier (.of_isWord '\n' rfl rfl) (by decide) (by decide)
    have cut : Segmented {} "pi\n".toList _ :=
      .next (List.forall_mem_nil _) name (.done (List.forall_mem_singleton.mpr rfl))
    have listed : scriptOf {} (encodeUtf8 "pi\n") = [.ok (.identifier "pi")] :=
      scriptOf_of_segmented (Dialect.check_eq_ok.mp rfl) cut
    have ready : (Tokenizer.ofSource {} (.ofBytes (encodeUtf8 "pi\n") none)).Ready {} :=
      Tokenizer.ready_ofBytes rfl _
    have turn := (Session.scripted_turn (s := ⟨{}, _, .withConstants, .unlimited, .unlimited⟩)
      ready).1
    have script := congrArg (ScriptSession.mk {} · .withConstants .unlimited .unlimited) listed
    have how := congrArg ScriptTurn.how (turn.trans (congrArg ScriptSession.turn script))
    exact Session.result_of_finished how 0 0
  obtain ⟨fails, err, _⟩ := loses.ends 0 0 ends
  exact ⟨rfl, whole, broken, started, brokenToo, ends, fails, err⟩

end Calculator
