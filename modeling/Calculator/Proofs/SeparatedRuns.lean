import Calculator.Proofs.ScriptSeparation

namespace Calculator

/-- A script without a statement that is not closed by a separator. -/
def Script.Complete (script : Script) : Prop :=
  Clean script ∧ (script = [] ∨ ∃ front, script = front ++ [separator])

theorem Script.complete_append_separator {front : Script} (clean : Clean front) :
    Complete (front ++ [separator]) := ⟨clean.append clean_separator, Or.inr ⟨front, rfl⟩⟩

/-- Dropping goes no further than the separator, and leaves whole statements. -/
theorem Script.dropThroughSeparator_append {zs : Script} (clean : Clean zs) :
    ∃ ws, Complete ws ∧ ∀ ys, dropThroughSeparator (zs ++ separator :: ys) = ws ++ ys := by
  induction zs with
  | nil => exact ⟨[], ⟨clean, Or.inl rfl⟩, fun _ => rfl⟩
  | cons first rest ih =>
    by_cases same : first = separator
    · subst same
      refine ⟨rest ++ [separator], complete_append_separator clean.tail, fun ys => ?_⟩
      rw [List.append_assoc]
      rfl
    · obtain ⟨ws, complete, dropped⟩ := ih clean.tail
      refine ⟨ws, complete, fun ys => ?_⟩
      rw [List.cons_append, dropThroughSeparator_of_ne same, dropped ys]

/-- A turn that has more of the list left. -/
def ScriptTurn.extend (more : Script) (turn : ScriptTurn) : ScriptTurn :=
  { turn with session := { turn.session with script := turn.session.script ++ more } }

/-- A run that has more of the list left. -/
def ScriptReport.extend (more : Script) (report : ScriptReport) : ScriptReport :=
  { report with session := { report.session with script := report.session.script ++ more } }

namespace ScriptSession

/-- The same conversation over another list. -/
def withScript (s : ScriptSession) (script : Script) : ScriptSession := { s with script }

/-- A conversation whose sinks take everything. -/
def Free (s : ScriptSession) : Prop := s.out = .unlimited ∧ s.err = .unlimited

/-- What a turn over whole statements keeps. -/
structure Kept (s : ScriptSession) (turn : ScriptTurn) : Prop where
  settings : turn.session.settings = s.settings
  free : turn.session.Free
  complete : Script.Complete turn.session.script

variable {s : ScriptSession}

theorem showValue_of_free (free : s.Free) (evaluated : Evaluated) (rest : Script) :
    s.showValue evaluated rest = ⟨.evaluated, { s with script := rest, table := evaluated.table },
      encodeUtf8 (s.settings.resultMarker ++ floatText evaluated.value ++ "\n"), [],
      [.value evaluated.value]⟩ := by
  obtain ⟨settings, script, table, out, err⟩ := s
  obtain ⟨rfl, rfl⟩ := free
  rfl

theorem showValue_append (free : s.Free) (evaluated : Evaluated) {zs : Script}
    (clean : Script.Clean zs) (ys : Script) :
    (s.showValue evaluated (zs ++ [Script.separator])).how = .evaluated ∧
      s.Kept (s.showValue evaluated (zs ++ [Script.separator])) ∧
      s.showValue evaluated (zs ++ Script.separator :: ys) =
        (s.showValue evaluated (zs ++ [Script.separator])).extend ys := by
  have split : zs ++ Script.separator :: ys = zs ++ [Script.separator] ++ ys := by simp
  rw [showValue_of_free free, showValue_of_free free, split]
  exact ⟨rfl, ⟨rfl, free, Script.complete_append_separator clean⟩, rfl⟩

theorem recover_of_unlimited (wide : s.err = .unlimited) (fault : Fault) (rest : Script) :
    s.recover fault rest = ⟨.failed, s.withScript (Script.dropThroughSeparator rest), [],
      encodeUtf8 (fault.message ++ "\n"), [.fault fault]⟩ := by
  obtain ⟨settings, script, table, out, err⟩ := s
  cases wide
  rfl

theorem conclude_error (s : ScriptSession) {fault : Fault} (recoverable : fault.recoverable = true)
    (rest : Script) : s.conclude ⟨.error fault, rest⟩ = s.recover fault rest := by
  rw [conclude]
  simp only [recoverable, ↓reduceIte]

theorem recover_append (free : s.Free) (fault : Fault) {zs : Script} (clean : Script.Clean zs)
    (ys : Script) : (s.recover fault (zs ++ [Script.separator])).how = .failed ∧
      s.Kept (s.recover fault (zs ++ [Script.separator])) ∧
      s.recover fault (zs ++ Script.separator :: ys) =
        (s.recover fault (zs ++ [Script.separator])).extend ys := by
  obtain ⟨ws, complete, dropped⟩ := Script.dropThroughSeparator_append clean
  have left : Script.dropThroughSeparator (zs ++ [Script.separator]) = ws := by
    rw [dropped [], List.append_nil]
  rw [recover_of_unlimited free.2, recover_of_unlimited free.2, dropped ys, left]
  exact ⟨rfl, ⟨rfl, free, complete⟩, rfl⟩

theorem conclude_append (free : s.Free) {result : Except Fault Evaluated} {zs : Script}
    (recoverable : Recoverable result) (clean : Script.Clean zs) :
    ∃ turn, (turn.how = .evaluated ∨ turn.how = .failed) ∧ s.Kept turn ∧
      ∀ ys, s.conclude ⟨result, zs ++ Script.separator :: ys⟩ = turn.extend ys := by
  cases result with
  | ok evaluated =>
    obtain ⟨how, kept, _⟩ := showValue_append free evaluated clean []
    exact ⟨_, Or.inl how, kept, fun ys => (showValue_append free evaluated clean ys).2.2⟩
  | error fault =>
    obtain ⟨how, kept, _⟩ := recover_append free fault clean []
    refine ⟨_, Or.inr how, kept, fun ys => ?_⟩
    rw [conclude_error s (recoverable fault rfl)]
    exact (recover_append free fault clean ys).2.2

theorem answer_withScript (s : ScriptSession) (script : Script) :
    (s.withScript script).answer = s.answerTo (Script.firstToken script) := rfl

theorem answer_append (free : s.Free) {front : Script} (clean : Script.Clean front) :
    (∃ turn, (turn.how = .evaluated ∨ turn.how = .failed ∨ turn.how = .finished .quit) ∧
        s.Kept turn ∧
        ∀ ys, (s.withScript (front ++ Script.separator :: ys)).answer = turn.extend ys) ∨
      ∀ ys, (s.withScript (front ++ Script.separator :: ys)).answer = (s.withScript ys).answer := by
  rcases Script.firstToken_append front clean with ⟨result, zs, recoverable, left, same⟩ | passed
  · replace same := fun ys => same (Script.separator :: ys)
    refine Or.inl ?_
    cases result with
    | error fault =>
      have noEnd : fault ≠ .endOfInput := by
        rintro rfl
        cases recoverable _ rfl
      obtain ⟨turn, how, kept, more⟩ :=
        conclude_append free (recoverable_error (recoverable fault rfl)) left
      refine ⟨turn, how.imp_right Or.inl, kept, fun ys => ?_⟩
      rw [answer_withScript, same ys, answerTo_statement (by simpa using noEnd) (by simp)]
      exact more ys
    | ok token =>
      by_cases quits : token = .keyword .quit
      · subst quits
        refine ⟨⟨.finished .quit, s.withScript (zs ++ [Script.separator]), [], [], []⟩,
          Or.inr (Or.inr rfl), ⟨rfl, free, Script.complete_append_separator left⟩, fun ys => ?_⟩
        have split : zs ++ Script.separator :: ys = zs ++ [Script.separator] ++ ys := by simp
        rw [answer_withScript, same ys, split]
        rfl
      · obtain ⟨result, after, recoverable, left, more⟩ :=
          (stays_statement s.table).separated (left.token token)
        obtain ⟨turn, how, kept, concluded⟩ := conclude_append free recoverable left
        refine ⟨turn, how.imp_right Or.inl, kept, fun ys => ?_⟩
        rw [answer_withScript, same ys, answerTo_statement (by simp) (by simpa using quits)]
        have run : Script.statementAt s.table ⟨.ok token, zs ++ Script.separator :: ys⟩ =
            ⟨result, after ++ Script.separator :: ys⟩ := more ys
        rw [run, concluded ys]
  · refine Or.inr fun ys => ?_
    have skipped : Script.firstToken (front ++ Script.separator :: ys) = Script.firstToken ys :=
      passed (Script.separator :: ys)
    rw [answer_withScript, answer_withScript, skipped]

theorem turn_of_free (free : s.Free) : s.turn =
    { s.answer with out := encodeUtf8 s.settings.prompt ++ s.answer.out } := by
  obtain ⟨settings, script, table, out, err⟩ := s
  obtain ⟨rfl, rfl⟩ := free
  rfl

/-- A turn before a separator sees nothing behind it, unless there are only separators, which it
skips. -/
theorem turn_append (free : s.Free) {front : Script} (clean : Script.Clean front) :
    (∃ turn, (turn.how = .evaluated ∨ turn.how = .failed ∨ turn.how = .finished .quit) ∧
        s.Kept turn ∧
        ∀ ys, (s.withScript (front ++ Script.separator :: ys)).turn = turn.extend ys) ∨
      ∀ ys, (s.withScript (front ++ Script.separator :: ys)).turn = (s.withScript ys).turn := by
  have wide : ∀ script, (s.withScript script).Free := fun _ => free
  rcases answer_append free clean with ⟨turn, how, kept, same⟩ | same
  · refine Or.inl ⟨{ turn with out := encodeUtf8 s.settings.prompt ++ turn.out }, how,
      ⟨kept.settings, kept.free, kept.complete⟩, fun ys => ?_⟩
    rw [turn_of_free (wide _), same ys]
    rfl
  · refine Or.inr fun ys => ?_
    rw [turn_of_free (wide _), turn_of_free (wide ys), same ys]
    rfl

theorem runFrom_nil (free : s.Free) (evaluated failed : Nat) :
    (s.withScript []).runFrom evaluated failed =
      ⟨.ok ⟨.endOfInput, evaluated, failed⟩, s.withScript [], encodeUtf8 s.settings.prompt, [], []⟩ := by
  obtain ⟨settings, script, table, out, err⟩ := s
  obtain ⟨rfl, rfl⟩ := free
  rw [runFrom_eq]
  have last : (withScript ⟨settings, script, table, .unlimited, .unlimited⟩ []).turn =
      ⟨.finished .endOfInput, ⟨settings, [], table, .unlimited, .unlimited⟩,
        encodeUtf8 settings.prompt ++ [], [], []⟩ := rfl
  rw [last, List.append_nil]
  rfl

theorem runFrom_congr {s t : ScriptSession} (same : s.turn = t.turn) (evaluated failed : Nat) :
    s.runFrom evaluated failed = t.runFrom evaluated failed := by
  rw [runFrom_eq s, runFrom_eq t, same]

/-- How a run over whole statements goes on when there is more behind them: not at all if it was
ended by the word for it, and with a run over the rest otherwise. -/
def Continues (s : ScriptSession) (more : Script) (evaluated failed : Nat) : Prop :=
  ∃ outcome, (s.runFrom evaluated failed).result = .ok outcome ∧
    match outcome.ending with
    | .quit => (s.withScript (s.script ++ more)).runFrom evaluated failed =
        (s.runFrom evaluated failed).extend more
    | .endOfInput => ∃ shown,
      (s.runFrom evaluated failed).out = shown ++ encodeUtf8 s.settings.prompt ∧
      (s.runFrom evaluated failed).session.settings = s.settings ∧
      (s.runFrom evaluated failed).session.Free ∧
      (s.withScript (s.script ++ more)).runFrom evaluated failed =
        let second := ((s.runFrom evaluated failed).session.withScript more).runFrom
          outcome.evaluated outcome.failed
        { second with
          out := shown ++ second.out
          err := (s.runFrom evaluated failed).err ++ second.err
          announced := (s.runFrom evaluated failed).announced ++ second.announced }

theorem continues_nil (free : s.Free) (more : Script) (evaluated failed : Nat) :
    (s.withScript []).Continues more evaluated failed := by
  unfold Continues
  rw [runFrom_nil free]
  exact ⟨⟨.endOfInput, evaluated, failed⟩, rfl, [], rfl, rfl, free, rfl⟩

theorem continues_congr {t : ScriptSession} {more : Script} {evaluated failed : Nat}
    (settings : t.settings = s.settings)
    (first : s.runFrom evaluated failed = t.runFrom evaluated failed)
    (whole : (s.withScript (s.script ++ more)).runFrom evaluated failed =
      (t.withScript (t.script ++ more)).runFrom evaluated failed)
    (h : t.Continues more evaluated failed) : s.Continues more evaluated failed := by
  unfold Continues at h ⊢
  rwa [first, whole, ← settings]

/-- A turn in front of a run changes nothing about how the run goes on. -/
theorem continues_after {turn : ScriptTurn} {more : Script} {evaluated failed evaluated' failed' : Nat}
    (settings : turn.session.settings = s.settings)
    (first : s.runFrom evaluated failed = (turn.session.runFrom evaluated' failed').after turn)
    (whole : (s.withScript (s.script ++ more)).runFrom evaluated failed =
      ((turn.session.withScript (turn.session.script ++ more)).runFrom evaluated' failed').after turn)
    (h : turn.session.Continues more evaluated' failed') :
    s.Continues more evaluated failed := by
  obtain ⟨⟨ending, counts⟩, ended, rest⟩ := h
  refine ⟨_, by rw [first]; exact ended, ?_⟩
  rw [first, whole]
  cases ending with
  | quit => exact congrArg (ScriptReport.after turn) rest
  | endOfInput =>
    obtain ⟨shown, out, same, free, rest⟩ := rest
    refine ⟨turn.out ++ shown, ?_, same.trans settings, free, ?_⟩
    · rw [List.append_assoc, ← settings, ← out]
      rfl
    · rw [rest]
      simp only [ScriptReport.after, List.append_assoc]

theorem continues_quit {turn : ScriptTurn} {more : Script} (here : s.turn = turn)
    (ahead : (s.withScript (s.script ++ more)).turn = turn.extend more)
    (quits : turn.how = .finished .quit) (evaluated failed : Nat) :
    s.Continues more evaluated failed := by
  have first : s.runFrom evaluated failed = ⟨.ok ⟨.quit, evaluated, failed⟩, turn.session,
      turn.out, turn.err, turn.announced⟩ := by
    rw [runFrom_eq, here]
    simp only [quits]
  refine ⟨⟨.quit, evaluated, failed⟩, by rw [first], ?_⟩
  show (s.withScript (s.script ++ more)).runFrom evaluated failed =
    (s.runFrom evaluated failed).extend more
  rw [first, runFrom_eq, ahead]
  simp only [ScriptTurn.extend, quits]
  rfl

/-- If runs go on behind a turn that sees nothing of what follows, they go on in front of it. -/
theorem continues_turn {turn : ScriptTurn} {more : Script} (here : s.turn = turn)
    (ahead : (s.withScript (s.script ++ more)).turn = turn.extend more) (kept : s.Kept turn)
    (how : turn.how = .evaluated ∨ turn.how = .failed ∨ turn.how = .finished .quit)
    (later : turn.how = .evaluated ∨ turn.how = .failed →
      ∀ evaluated failed, turn.session.Continues more evaluated failed)
    (evaluated failed : Nat) : s.Continues more evaluated failed := by
  rcases how with goesOn | goesOn | quits
  · refine continues_after kept.settings ?_ ?_ (later (Or.inl goesOn) (evaluated + 1) failed)
    · rw [runFrom_eq, here]
      simp only [goesOn]
    · rw [runFrom_eq, ahead]
      simp only [ScriptTurn.extend, goesOn]
      rfl
  · refine continues_after kept.settings ?_ ?_ (later (Or.inr goesOn) evaluated (failed + 1))
    · rw [runFrom_eq, here]
      simp only [goesOn]
    · rw [runFrom_eq, ahead]
      simp only [ScriptTurn.extend, goesOn]
      rfl
  · exact continues_quit here ahead quits evaluated failed

/-- A run over whole statements goes on with what is behind them. -/
theorem continues {s : ScriptSession} (free : s.Free) (complete : Script.Complete s.script)
    (more : Script) (evaluated failed : Nat) : s.Continues more evaluated failed := by
  obtain ⟨clean, empty | ⟨front, last⟩⟩ := complete
  · have bare : s = s.withScript [] := by rw [← empty]; rfl
    rw [bare]
    exact continues_nil free more evaluated failed
  have cleanFront : Script.Clean front :=
    (List.forall_mem_append.mp (show Script.Clean (front ++ _) from last ▸ clean)).1
  have split : ∀ ys, s.script ++ ys = front ++ Script.separator :: ys := by
    intro ys
    rw [last, List.append_assoc]
    rfl
  have self : s = s.withScript (front ++ Script.separator :: []) := by
    rw [← split, List.append_nil]
    rfl
  -- The induction is on the list: a turn after which the run goes on leaves less of it.
  rcases turn_append free cleanFront with ⟨turn, how, kept, same⟩ | same
  · have here : s.turn = turn := by
      rw [self, same []]
      simp [ScriptTurn.extend]
    have ahead : (s.withScript (s.script ++ more)).turn = turn.extend more := by
      rw [split, same more]
    refine continues_turn here ahead kept how (fun goesOn evaluated failed => ?_) evaluated failed
    have less : turn.session.script.length < s.script.length := by
      have shorter := length_turn (s := s) (by rwa [here])
      rwa [here] at shorter
    exact continues kept.free kept.complete more evaluated failed
  · -- There are only separators, and both runs skip them.
    have first := runFrom_congr ((congrArg turn self).trans (same [])) evaluated failed
    have whole := runFrom_congr ((congrArg (fun script => (s.withScript script).turn)
      (split more)).trans (same more)) evaluated failed
    exact continues_congr (t := s.withScript []) rfl first whole
      (continues_nil free more evaluated failed)
termination_by s.script.length

theorem conclude_clean (free : s.Free) {statement : Reading Evaluated} (mild : statement.Mild) :
    (∀ fault, (s.conclude statement).how ≠ .broken fault) ∧ (s.conclude statement).session.Free ∧
      Script.Clean (s.conclude statement).session.script := by
  obtain ⟨settings, script, table, out, err⟩ := s
  obtain ⟨rfl, rfl⟩ := free
  obtain ⟨result, rest⟩ := statement
  cases result with
  | ok evaluated => exact ⟨nofun, ⟨rfl, rfl⟩, mild.2⟩
  | error fault =>
    rw [conclude]
    by_cases recoverable : fault.recoverable = true
    · simp only [recoverable, ↓reduceIte]
      exact ⟨nofun, ⟨rfl, rfl⟩, Script.clean_dropThroughSeparator mild.2⟩
    · obtain ⟨rfl, _⟩ := (mild.1 fault rfl).resolve_left recoverable
      exact ⟨nofun, ⟨rfl, rfl⟩, mild.2⟩

theorem turn_clean (free : s.Free) (clean : Script.Clean s.script) :
    (∀ fault, s.turn.how ≠ .broken fault) ∧ s.turn.session.Free ∧
      Script.Clean s.turn.session.script := by
  have left := (Script.mild_firstToken clean).2
  have mild := Script.mild_statementAt s.table clean
  rw [turn_of_free free]
  show (∀ fault, s.answer.how ≠ .broken fault) ∧ s.answer.session.Free ∧
    Script.Clean s.answer.session.script
  unfold answer answerTo
  split
  next => exact ⟨nofun, free, left⟩
  next => exact ⟨nofun, free, left⟩
  next => exact conclude_clean free mild

/-- Where the sinks take everything, a run comes to an end of its own. -/
theorem exists_outcome {s : ScriptSession} (free : s.Free) (clean : Script.Clean s.script)
    (evaluated failed : Nat) : ∃ outcome, (s.runFrom evaluated failed).result = .ok outcome := by
  obtain ⟨whole, free, clean⟩ := turn_clean free clean
  rw [runFrom_eq]
  cases h : s.turn.how with
  | evaluated =>
    have less := length_turn (Or.inl h)
    exact exists_outcome free clean (evaluated + 1) failed
  | failed =>
    have less := length_turn (Or.inr h)
    exact exists_outcome free clean evaluated (failed + 1)
  | finished ending => exact ⟨_, rfl⟩
  | broken fault => exact absurd h (whole fault)
termination_by s.script.length

/-- What was counted before a run is added to what the run counts. -/
theorem runFrom_add (s : ScriptSession) (evaluated failed evaluated' failed' : Nat) :
    s.runFrom (evaluated + evaluated') (failed + failed') =
      { s.runFrom evaluated' failed' with
        result := (s.runFrom evaluated' failed').result.map fun outcome =>
          ⟨outcome.ending, evaluated + outcome.evaluated, failed + outcome.failed⟩ } := by
  rw [runFrom_eq s (evaluated + evaluated'), runFrom_eq s evaluated']
  cases h : s.turn.how with
  | evaluated =>
    have less := length_turn (Or.inl h)
    simp only [Nat.add_assoc]
    rw [runFrom_add s.turn.session]
    rfl
  | failed =>
    have less := length_turn (Or.inr h)
    simp only [Nat.add_assoc]
    rw [runFrom_add s.turn.session]
    rfl
  | finished ending => rfl
  | broken fault => rfl
termination_by s.script.length

/-- A run over whole statements and more is a run over the statements, and then, unless the word
for it has ended this run, one over the rest with the table that was left. -/
theorem run_append (free : s.Free) (complete : Script.Complete s.script) {more : Script}
    (clean : Script.Clean more) :
    (∃ evaluated failed, s.run.result = .ok ⟨.quit, evaluated, failed⟩ ∧
      (s.withScript (s.script ++ more)).run = s.run.extend more) ∨
    ∃ evaluated failed outcome shown, s.run.result = .ok ⟨.endOfInput, evaluated, failed⟩ ∧
      (s.run.session.withScript more).run.result = .ok outcome ∧
      s.run.out = shown ++ encodeUtf8 s.settings.prompt ∧
      s.run.session.settings = s.settings ∧ s.run.session.Free ∧
      (s.withScript (s.script ++ more)).run =
        { result := .ok ⟨outcome.ending, evaluated + outcome.evaluated, failed + outcome.failed⟩
          session := (s.run.session.withScript more).run.session
          out := shown ++ (s.run.session.withScript more).run.out
          err := s.run.err ++ (s.run.session.withScript more).run.err
          announced := s.run.announced ++ (s.run.session.withScript more).run.announced } := by
  obtain ⟨⟨ending, evaluated, failed⟩, ended, rest⟩ := continues free complete more 0 0
  cases ending with
  | quit => exact Or.inl ⟨evaluated, failed, ended, rest⟩
  | endOfInput =>
    obtain ⟨shown, out, settings, free, rest⟩ := rest
    obtain ⟨outcome, second⟩ := exists_outcome (s := s.run.session.withScript more) free clean 0 0
    have counted := runFrom_add (s.run.session.withScript more) evaluated failed 0 0
    rw [second] at counted
    refine Or.inr ⟨evaluated, failed, outcome, shown, ended, second, out, settings, free, ?_⟩
    refine rest.trans ?_
    exact congrArg (fun report : ScriptReport =>
      { report with
        out := shown ++ report.out
        err := s.run.err ++ report.err
        announced := s.run.announced ++ report.announced }) counted

end ScriptSession

end Calculator
