import Calculator.Proofs.AlikeSessions
import Calculator.Proofs.BoundedRuns

namespace Calculator

theorem encodeUtf8_ofList (text : List Char) :
    encodeUtf8 (.ofList text) = text.flatMap String.utf8EncodeChar := by
  rw [encodeUtf8, String.toList_ofList]

/-- A text that ends with a newline consists of whole lines. -/
theorem wholeLines_encodeUtf8 {text : List Char}
    (closed : ∀ c ∈ text.getLast?, c = '\n') :
    wholeLines (encodeUtf8 (.ofList text)) = encodeUtf8 (.ofList text) := by
  rw [encodeUtf8_ofList]
  rcases List.eq_nil_or_concat' text with rfl | ⟨front, last, rfl⟩
  · rfl
  · obtain rfl := closed last (by simp)
    have bytes : (front ++ ['\n']).flatMap String.utf8EncodeChar =
        front.flatMap String.utf8EncodeChar ++ [10] := by
      rw [List.flatMap_append]
      rfl
    rw [bytes, wholeLines, List.rdropWhile_concat_neg]
    simp

namespace Source

variable {s : Source}

/-- A source of whole lines has whole lines to give, after the rest of the present one. -/
theorem Lined.newline_of_getLast? (lined : s.Lined) : ∀ c ∈ s.unread.getLast?, c = '\n' := by
  have line : ∀ line ∈ s.line :: s.pending, ∀ c ∈ line.toList.getLast?, c = '\n' := by
    intro line listed c last
    rcases lined line listed with rfl | newline
    · cases last
    · rw [← Array.getLast?_toList, Option.mem_def.mp last] at newline
      exact Option.some.inj newline
  have pending : ∀ lines : List (Array Char), (∀ line ∈ lines, ∀ c ∈ line.toList.getLast?, c = '\n') →
      ∀ c ∈ (lines.flatMap Array.toList).getLast?, c = '\n' := by
    intro lines closed
    induction lines with
    | nil => nofun
    | cons line lines ih =>
      obtain ⟨first, later⟩ := List.forall_mem_cons.mp closed
      intro c last
      rw [List.flatMap_cons, List.getLast?_append] at last
      rcases Option.or_eq_some_iff.mp last with last | ⟨_, last⟩
      · exact ih later c last
      · exact first c last
  obtain ⟨here, later⟩ := List.forall_mem_cons.mp line
  intro c last
  rw [unread, List.getLast?_append] at last
  rcases Option.or_eq_some_iff.mp last with last | ⟨_, last⟩
  · exact pending s.pending later c last
  · rw [List.getLast?_drop] at last
    split at last
    next => cases last
    next => exact here c last

theorem Intact.unread_ofBytes (intact : s.Intact) :
    (ofBytes (encodeUtf8 (.ofList s.unread)) s.failure).unread = s.unread := by
  -- A source that fails at its end drops the characters behind the last newline. There are none.
  cases failure : s.failure with
  | none => rw [Source.unread_ofBytes, decodeLossy_encodeUtf8, String.toList_ofList]
  | some text =>
    have lined := intact.lined (by rw [failure]; nofun)
    have whole := wholeLines_encodeUtf8 lined.newline_of_getLast?
    rw [ofBytes_failing, whole]
    show (ofBytes (encodeUtf8 (.ofList s.unread)) none).unread = s.unread
    rw [Source.unread_ofBytes, decodeLossy_encodeUtf8, String.toList_ofList]

end Source

namespace Tokenizer

variable {dialect : Dialect} {t : Tokenizer} {table : SymbolTable}

theorem find_ending {ending : Ending} (h : (t.find table).finding = .ending ending) :
    (ending = .quit ∧ t.firstToken.result = .ok (.keyword .quit) ∧
        (t.find table).tokens = t.firstToken.tokens) ∨
      ending = .endOfInput ∧ ((t.firstToken.result = .error .endOfInput ∧
          (t.find table).tokens = t.firstToken.tokens) ∨
        ((statementAt table t.firstToken).result = .error .endOfInput ∧
          (t.find table).tokens = (statementAt table t.firstToken).tokens)) := by
  by_cases ended : t.firstToken.result = .error .endOfInput
  · rw [find_of_ended ended] at h ⊢
    cases h
    exact Or.inr ⟨rfl, Or.inl ⟨ended, rfl⟩⟩
  by_cases quits : t.firstToken.result = .ok (.keyword .quit)
  · rw [find_of_quits quits] at h ⊢
    cases h
    exact Or.inl ⟨rfl, quits, rfl⟩
  · rw [find_of_statement ended quits] at h ⊢
    obtain ⟨rfl, result⟩ := Finding.ofResult_eq_ending h
    exact Or.inr ⟨rfl, Or.inr ⟨result, rfl⟩⟩

/-- A fault at the end of input leaves nothing to read. -/
theorem Intact.spent_of_end {α : Type} {step : Step α} (intact : t.Intact dialect)
    (explained : step.Explained t)
    (mild : Script.Clean t.stream → step.reading.Mild)
    (ended : step.result = .error .endOfInput) :
    t.source.failure = none ∧ step.tokens.stream = [] := by
  have normal : t.source.failure = none := by
    rcases explained .endOfInput ended with recoverable | final
    · cases recoverable
    · unfold Source.endFault at final
      split at final
      next normal => exact normal
      next => cases final
  -- The list of tokens holds no fault that ends it, so the fault comes from behind the list.
  refine ⟨normal, ?_⟩
  rcases (mild (intact.clean normal)).1 .endOfInput ended with recoverable | ⟨_, used⟩
  · cases recoverable
  · exact used

theorem held_of_stream_nil (used : t.stream = []) : t.held = none := by
  cases held : t.held with
  | none => rfl
  | some token =>
    rw [stream_of_held held] at used
    cases used

/-- Where a session ends, nothing has been given back; and at the end of input nothing is left. -/
theorem Intact.find_ending (intact : t.Intact dialect) {ending : Ending}
    (h : (t.find table).finding = .ending ending) :
    (t.find table).tokens.held = none ∧ (ending = .endOfInput →
      t.source.failure = none ∧ (t.find table).tokens.stream = []) := by
  have cleanFirst (clean : Script.Clean t.stream) : t.firstToken.reading.Mild := by
    rw [reading_firstToken]
    exact Script.mild_firstToken clean
  have cleanStatement (clean : Script.Clean t.stream) :
      (statementAt table t.firstToken).reading.Mild := by
    rw [reading_statementAt]
    exact Script.mild_statementAt table clean
  rcases Tokenizer.find_ending h with
    ⟨rfl, _, same⟩ | ⟨rfl, ⟨ended, same⟩ | ⟨ended, same⟩⟩
  · rw [same]
    exact ⟨held_firstToken t, nofun⟩
  · have spent := intact.spent_of_end (explained_firstToken t) cleanFirst ended
    rw [same]
    exact ⟨held_firstToken t, fun _ => spent⟩
  · have spent := intact.spent_of_end (explained_statementAt table t) cleanStatement ended
    rw [same]
    exact ⟨held_of_stream_nil spent.2, fun _ => spent⟩

end Tokenizer

namespace Session

variable {s : Session} {text : List Char}

/-- What a turn leaves that ends a run: nothing has been given back, and at the end of input
nothing is left. -/
theorem left_of_finished (intact : s.tokens.Intact s.settings.dialect) {ending : Ending}
    (how : s.turn.how = .finished ending) :
    s.turn.session.tokens.held = none ∧ (ending = .endOfInput → s.turn.session.Ended) := by
  obtain ⟨finding, tokens⟩ := turn_finished how
  obtain ⟨free, spent⟩ := intact.find_ending finding
  refine ⟨tokens ▸ free, fun isEnd => ?_⟩
  obtain ⟨normal, used⟩ := spent isEnd
  exact ⟨(onward_turn s).leads.failure.trans normal, tokens ▸ used⟩

/-- A session that quits is right behind the word for it. -/
theorem At.quits (place : s.At text) (how : s.turn.how = .finished .quit) :
    ∃ before front more,
      text = before ++ (s.settings.dialect.quitWord.toList ++
        s.turn.session.tokens.source.unread) ∧
      Segmented s.settings.dialect text
        (front ++ (s.settings.dialect.quitWord.toList, .ok (.keyword .quit)) :: more) ∧
      Segmented s.settings.dialect s.turn.session.tokens.source.unread more := by
  obtain ⟨finding, tokens⟩ := turn_finished how
  rcases Tokenizer.find_ending finding with ⟨_, quits, same⟩ | ⟨other, _⟩
  · have course := Tokenizer.course_at s.settings.dialect text
    have behind := (@Course.firstToken _ _ course s.tokens [] place).1 _ quits
    obtain ⟨intact, free, lexeme, here, before, whole, cut⟩ := behind
    rw [tokens, same]
    generalize s.tokens.firstToken.tokens.source.unread = unread at *
    obtain ⟨more, segmented⟩ := exists_segmented intact.usable unread
    have word : lexeme = s.settings.dialect.quitWord.toList := by
      cases here with
      | quitWord run same => rw [← same, String.toList_ofList]
    obtain ⟨front, segments⟩ := cut _ (.next (List.forall_mem_nil _) here segmented)
    rw [word] at whole segments
    exact ⟨before, front, more, whole, segments, segmented⟩
  · cases other

/-- After the end of input every run finds nothing. -/
theorem Ended.runs {k : Nat} {s : Session} {later : Report} (h : s.Ended)
    (listed : later ∈ s.runs k) : s.Idle 0 0 later := by
  induction k generalizing s with
  | zero => cases listed
  | succ k ih =>
    obtain ⟨ended, idle⟩ : s.run.session.Ended ∧ s.Idle 0 0 s.run := h.runFrom 0 0
    have onward : s.Onward s.run.session := (visits_runFrom s 0 0).onward
    rcases List.mem_cons.mp listed with rfl | listed
    · exact idle
    · obtain ⟨table, err, result⟩ := ih ended listed
      rw [onward.settings] at result
      refine ⟨table.trans idle.table, err, result.imp_right ?_⟩
      rintro ⟨limited, full⟩
      exact ⟨fun wide => limited (onward.out wide), full⟩

/-- A session that starts with the table of another one, on the text that is unread there. -/
def anew (s : Session) : Session :=
  let unread := encodeUtf8 (.ofList s.tokens.source.unread)
  { s with tokens := .ofSource s.settings.dialect (.ofBytes unread s.tokens.source.failure) }

theorem alike_anew (intact : s.tokens.Intact s.settings.dialect) (free : s.tokens.held = none) :
    s.Alike s.anew := by
  have accepted := Dialect.check_eq_ok.mpr intact.usable
  have second := Tokenizer.intact_ofBytes accepted
    (encodeUtf8 (.ofList s.tokens.source.unread)) s.tokens.source.failure
  have unread := intact.source.unread_ofBytes
  exact ⟨rfl, .of_unread intact second free rfl unread.symm rfl, rfl, rfl, rfl⟩

theorem visits_afterTurns (s : Session) (n : Nat) : s.Visits (s.afterTurns n) := by
  induction n generalizing s with
  | zero => exact .here
  | succ n ih => exact (Visits.turn .here).trans (ih s.turn.session)

theorem exists_last_turn {outcome : Outcome} (ended : s.run.result = .ok outcome) :
    ∃ last, s.Visits last ∧ last.turn.how = .finished outcome.ending ∧
      s.run.session = last.turn.session := by
  obtain ⟨n, _, session, ⟨ending, how, counted⟩ | ⟨fault, _, broken⟩⟩ := s.exists_lasts 0 0
  · have same : ending = outcome.ending := by
      have result := counted.symm.trans ended
      cases result
      rfl
    exact ⟨s.afterTurns n, visits_afterTurns s n, same ▸ how, session⟩
  · cases ended.symm.trans broken

end Session

/-- Runs of one session follow each other as if each were the first on the text that the one before
it has left, with its table; and once the text has ended, no run finds anything. -/
theorem runs_chain {settings : Settings} (accepted : settings.dialect.check = .ok ())
    (bytes : List UInt8) (failure : Option String) (out err : Sink) :
    ∃ first, Session.start settings (.ofBytes bytes failure) out err = .ok first ∧
      ∀ n, ∀ report ∈ first.runs n, ∀ outcome, report.result = .ok outcome →
        report.session.tokens.held = none ∧
        report.session.run.Alike report.session.anew.run ∧
        (outcome.ending = .quit → ∃ before front more,
          first.tokens.source.unread = before ++ (settings.dialect.quitWord.toList ++
            report.session.tokens.source.unread) ∧
          Segmented settings.dialect first.tokens.source.unread
            (front ++ (settings.dialect.quitWord.toList, .ok (.keyword .quit)) :: more) ∧
          Segmented settings.dialect report.session.tokens.source.unread more) ∧
        (outcome.ending = .endOfInput → ∀ k, ∀ later ∈ report.session.runs k,
          report.session.Idle 0 0 later) := by
  refine ⟨_, Session.start_eq accepted _ out err, ?_⟩
  intro n report listed outcome ended
  -- All that is said of a report is settled by the turn that ends its run.
  obtain ⟨before, earlier, rfl⟩ := Session.exists_run_of_mem_runs listed
  obtain ⟨last, visits, how, session⟩ := Session.exists_last_turn ended
  have visits := earlier.trans visits
  have start : Session.At (Source.ofBytes bytes failure).unread ⟨settings, .ofSource settings.dialect
      (.ofBytes bytes failure), if settings.withConstants then .withConstants else .empty, out,
      err⟩ :=
    .of_intact (Tokenizer.intact_ofBytes accepted bytes failure) (.source rfl)
  have same := visits.onward.settings
  have place := visits.at start
  have onward := Session.onward_turn last
  have after := (visits.turn.at start).intact
  obtain ⟨free, ends⟩ := Session.left_of_finished place.intact how
  rw [session]
  refine ⟨free, (Session.alike_anew after free).runFrom 0 0, fun quits => ?_,
    fun isEnd k later listed => (ends isEnd).runs listed⟩
  rw [quits] at how
  have behind := place.quits how
  rwa [same] at behind

/-- A second run starts in the middle of the line, behind the word that has ended the first one. -/
theorem runs_chain_within_line : Dialect.check {} = .ok () ∧
    ∃ first, Session.start {} (.ofBytes (encodeUtf8 "let a = 2; quit a + (") none) .unlimited
        .unlimited = .ok first ∧
      ∃ outcome, first.run.result = .ok outcome ∧ first.run.session.tokens.held = none ∧
        first.run.session.run.Alike first.run.session.anew.run ∧
        (outcome.ending = .quit → ∃ before, "let a = 2; quit a + (".toList =
          before ++ ("quit".toList ++ first.run.session.tokens.source.unread)) := by
  obtain ⟨first, started, chain⟩ := @runs_chain {} rfl (encodeUtf8 "let a = 2; quit a + (") none
    .unlimited .unlimited
  have fresh : first.Wide ∧ first.tokens.source.failure = none ∧
      first.tokens.source.unread = "let a = 2; quit a + (".toList := by
    have same := started
    rw [Session.start_eq rfl] at same
    cases same
    exact ⟨⟨rfl, rfl⟩, rfl, unread_of_text _⟩
  obtain ⟨wide, normal, text⟩ := fresh
  obtain ⟨outcome, ended⟩ := wide.run_ok normal
  obtain ⟨free, again, quits, _⟩ := chain 1 _ (List.mem_singleton_self _) outcome ended
  refine ⟨rfl, first, started, outcome, ended, free, again, fun ending => ?_⟩
  obtain ⟨before, _, _, whole, _⟩ := quits ending
  exact ⟨before, text ▸ whole⟩

end Calculator
