import Calculator.Proofs.TableGrowth

namespace Calculator

variable {α β : Type}

theorem Reading.andThen_result {reading : Reading α} {f : α → Script → Reading β} {b : β}
    (h : (reading.andThen f).result = .ok b) :
    ∃ a, reading.result = .ok a ∧ (f a reading.rest).result = .ok b := by
  obtain ⟨result, rest⟩ := reading
  cases result with
  | ok a => exact ⟨a, rfl, h⟩
  | error fault => cases h

namespace Script

variable {table : SymbolTable} {script : Script} {evaluated : Evaluated}

theorem prefix_declaration (h : (declaration table script).result = .ok evaluated) :
    table.entries <+: evaluated.table.entries := by
  obtain ⟨token, _, h⟩ := Reading.andThen_result h
  split at h
  next =>
    obtain ⟨sign, _, h⟩ := Reading.andThen_result h
    split at h
    next =>
      obtain ⟨value, _, h⟩ := Reading.andThen_result h
      obtain ⟨declared, added, h⟩ := Reading.andThen_result h
      cases h
      exact ⟨_, (SymbolTable.entries_of_declare added).symm⟩
    next => cases h
  next => cases h

theorem prefix_statement (h : (statement table script).result = .ok evaluated) :
    table.entries <+: evaluated.table.entries := by
  obtain ⟨token, _, h⟩ := Reading.andThen_result h
  split at h
  next => exact prefix_declaration h
  next =>
    obtain ⟨value, _, h⟩ := Reading.andThen_result h
    cases h
    exact List.prefix_refl _

theorem prefix_statementAt {first : Reading Token}
    (h : (statementAt table first).result = .ok evaluated) :
    table.entries <+: evaluated.table.entries := by
  obtain ⟨token, _, h⟩ := Reading.andThen_result h
  exact prefix_statement h

/-- Dropping stops within a script, or goes on behind it. -/
theorem dropThroughSeparator_append_cases (zs : Script) :
    (∃ ws, ∀ ys, dropThroughSeparator (zs ++ ys) = ws ++ ys) ∨
      ∀ ys, dropThroughSeparator (zs ++ ys) = dropThroughSeparator ys := by
  induction zs with
  | nil => exact Or.inr fun _ => rfl
  | cons first rest ih =>
    by_cases same : first = separator
    · subst same
      exact Or.inl ⟨rest, fun _ => rfl⟩
    · have goesOn : ∀ ys, dropThroughSeparator (first :: rest ++ ys) =
          dropThroughSeparator (rest ++ ys) := fun ys =>
        dropThroughSeparator_of_ne same (rest ++ ys)
      rcases ih with ⟨ws, stops⟩ | beyond
      · exact Or.inl ⟨ws, fun ys => (goesOn ys).trans (stops ys)⟩
      · exact Or.inr fun ys => (goesOn ys).trans (beyond ys)

end Script

/-- What more behind a script means for a turn `f` over it that starts with a table: it is not
looked at, or only up to the separator that ends a statement that has failed, or the turn had come
to the end of the script without a result. -/
inductive Foresees (f : Script → ScriptTurn) (table : SymbolTable) (xs : Script) : Prop where
  | sees (turn : ScriptTurn)
    (how : turn.how = .evaluated ∨ turn.how = .failed ∨ turn.how = .finished .quit)
    (same : ∀ ys, f (xs ++ ys) = turn.extend ys)
  | drops (turn : ScriptTurn) (how : turn.how = .failed) (spent : turn.session.script = [])
    (same : ∀ ys, f (xs ++ ys) = turn.extend (Script.dropThroughSeparator ys))
  | ends (how : (f xs).how = .finished .endOfInput) (quiet : (f xs).announced = [])
    (kept : (f xs).session.table = table)
    (once : (f (xs ++ [Script.separator])).announced.length ≤ 1)
    (spent : (f (xs ++ [Script.separator])).session.script = [] ∨
      (f (xs ++ [Script.separator])).session.script = [Script.separator])

namespace ScriptSession

variable {s : ScriptSession}

theorem foresees_recover {f : Script → ScriptTurn} {xs zs : Script} {fault : Fault}
    (free : s.Free) (same : ∀ ys, f (xs ++ ys) = s.recover fault (zs ++ ys)) :
    Foresees f s.table xs := by
  have whole := fun ys => (same ys).trans (recover_of_unlimited free.2 fault (zs ++ ys))
  rcases Script.dropThroughSeparator_append_cases zs with ⟨ws, stops⟩ | beyond
  · simp only [stops] at whole
    exact .sees ⟨.failed, s.withScript ws, [], _, _⟩ (Or.inr (Or.inl rfl)) whole
  · simp only [beyond] at whole
    exact .drops ⟨.failed, s.withScript [], [], _, _⟩ rfl rfl whole

theorem foresees_conclude {f : Script → ScriptTurn} {g : Script → Reading Evaluated}
    {xs zs : Script} (free : s.Free) (stays : Settles g zs ∨ RunsOut g zs)
    (same : ∀ ys, f (xs ++ ys) = s.conclude (g (zs ++ ys))) : Foresees f s.table xs := by
  rcases stays with ⟨result, ws, recoverable, _, settled⟩ | ⟨short, result, recoverable, closed⟩
  · simp only [settled] at same
    cases result with
    | error fault =>
      have refused := fun ys => (same ys).trans (s.conclude_error (recoverable fault rfl) (ws ++ ys))
      exact foresees_recover free refused
    | ok evaluated =>
      have shown := fun ys => (same ys).trans (showValue_of_free free evaluated (ws ++ ys))
      exact .sees ⟨.evaluated, { s with script := ws, table := evaluated.table }, _, [], _⟩
        (Or.inl rfl) shown
  · -- The statement runs out. It announces something only once a separator stands behind it.
    have bare : f xs = s.conclude ⟨.error .endOfInput, []⟩ := by
      have whole := same []
      rwa [List.append_nil, List.append_nil, short] at whole
    have ended : f (xs ++ [Script.separator]) = s.conclude ⟨result, [Script.separator]⟩ := by
      rw [same, closed]
    refine .ends (by rw [bare]; rfl) (by rw [bare]; rfl) (by rw [bare]; rfl) ?_ ?_
    · rw [ended]
      cases result with
      | error fault =>
        rw [conclude_error s (recoverable fault rfl), recover_of_unlimited free.2]
        exact Nat.le_refl 1
      | ok evaluated => exact Nat.le_refl 1
    · rw [ended]
      cases result with
      | error fault =>
        rw [conclude_error s (recoverable fault rfl), recover_of_unlimited free.2]
        exact Or.inl rfl
      | ok evaluated => exact Or.inr rfl

theorem foresees_answer (free : s.Free) {xs : Script} (clean : Script.Clean xs) :
    Foresees (fun script => (s.withScript script).answer) s.table xs := by
  rcases Script.firstToken_append xs clean with ⟨result, zs, recoverable, left, same⟩ | passed
  · have answered : ∀ ys, (s.withScript (xs ++ ys)).answer = s.answerTo ⟨result, zs ++ ys⟩ := by
      intro ys
      rw [answer_withScript, same ys]
    cases result with
    | error fault =>
      have recoverable := recoverable fault rfl
      have noEnd : fault ≠ .endOfInput := by
        rintro rfl
        cases recoverable
      have refused : ∀ ys, (s.withScript (xs ++ ys)).answer = s.recover fault (zs ++ ys) := by
        intro ys
        rw [answered, answerTo_statement (by simpa using noEnd) (by simp)]
        exact conclude_error s recoverable (zs ++ ys)
      exact foresees_recover free refused
    | ok token =>
      by_cases quits : token = .keyword .quit
      · subst quits
        exact .sees ⟨.finished .quit, s.withScript zs, [], [], []⟩ (Or.inr (Or.inr rfl)) answered
      · have stays := stays_statement s.table (.ok token :: zs) (left.token token)
        have concluded : ∀ ys, (s.withScript (xs ++ ys)).answer =
            s.conclude (Script.statement s.table (.ok token :: zs ++ ys)) := by
          intro ys
          rw [answered, answerTo_statement (by simp) (by simpa using quits)]
          rfl
        exact foresees_conclude free stays concluded
  · have bare : (s.withScript xs).answer = s.answerTo ⟨.error .endOfInput, []⟩ := by
      have skipped := passed []
      rw [List.append_nil] at skipped
      rw [answer_withScript, skipped]
      rfl
    have closed : (s.withScript (xs ++ [Script.separator])).answer =
        s.answerTo ⟨.error .endOfInput, []⟩ := by
      rw [answer_withScript, passed]
      rfl
    refine .ends ?_ ?_ ?_ ?_ ?_
    · rw [bare]
      rfl
    · rw [bare]
      rfl
    · rw [bare]
      rfl
    · rw [closed]
      exact Nat.zero_le 1
    · rw [closed]
      exact Or.inl rfl

theorem foresees_turn (free : s.Free) {xs : Script} (clean : Script.Clean xs) :
    Foresees (fun script => (s.withScript script).turn) s.table xs := by
  have prompted : ∀ script, (s.withScript script).turn =
      { (s.withScript script).answer with
        out := encodeUtf8 s.settings.prompt ++ (s.withScript script).answer.out } := fun script =>
    turn_of_free (s := s.withScript script) free
  simp only [prompted]
  cases foresees_answer free clean with
  | sees turn how same =>
    refine .sees { turn with out := encodeUtf8 s.settings.prompt ++ turn.out } how fun ys => ?_
    simp only [same ys]
    rfl
  | drops turn how spent same =>
    refine .drops { turn with out := encodeUtf8 s.settings.prompt ++ turn.out } how spent
      fun ys => ?_
    simp only [same ys]
    rfl
  | ends how quiet kept once spent => exact .ends how quiet kept once spent

theorem prefix_conclude {statement : Reading Evaluated}
    (grows : ∀ evaluated, statement.result = .ok evaluated →
      s.table.entries <+: evaluated.table.entries) :
    s.table.entries <+: (s.conclude statement).session.table.entries := by
  unfold conclude
  split
  next evaluated result => exact grows evaluated result
  next =>
    split
    next =>
      unfold recover
      dsimp only
      split
      next => exact List.prefix_refl _
      next => exact List.prefix_refl _
    next => exact List.prefix_refl _

theorem prefix_answer (s : ScriptSession) :
    s.table.entries <+: s.answer.session.table.entries := by
  unfold answer answerTo
  split
  next => exact List.prefix_refl _
  next => exact List.prefix_refl _
  next => exact prefix_conclude fun _ => Script.prefix_statementAt

theorem prefix_turn (s : ScriptSession) : s.table.entries <+: s.turn.session.table.entries := by
  unfold turn
  dsimp only
  split
  next => exact prefix_answer { s with out := (s.out.write s.settings.prompt).sink }
  next => exact List.prefix_refl _

theorem prefix_runFrom (s : ScriptSession) (evaluated failed : Nat) :
    s.table.entries <+: (s.runFrom evaluated failed).session.table.entries := by
  have first := prefix_turn s
  rw [runFrom_eq]
  cases h : s.turn.how with
  | evaluated =>
    have less := length_turn (Or.inl h)
    exact first.trans (prefix_runFrom s.turn.session (evaluated + 1) failed)
  | failed =>
    have less := length_turn (Or.inr h)
    exact first.trans (prefix_runFrom s.turn.session evaluated (failed + 1))
  | finished ending => exact first
  | broken fault => exact first
termination_by s.script.length

/-- Nothing is announced over a script of no more than a separator. -/
theorem announced_runFrom_spent (free : s.Free)
    (spent : s.script = [] ∨ s.script = [Script.separator]) (evaluated failed : Nat) :
    (s.runFrom evaluated failed).announced = [] := by
  have turn : (s.withScript [Script.separator]).turn = (s.withScript []).turn := by
    rw [turn_of_free (s := s.withScript [Script.separator]) free,
      turn_of_free (s := s.withScript []) free]
    rfl
  have same : s = s.withScript s.script := rfl
  have run := congrArg ScriptReport.announced (runFrom_nil free evaluated failed)
  rcases spent with empty | one
  · rwa [← empty] at run
  · rwa [← runFrom_congr turn, ← one] at run

end ScriptSession

/-- How a run over a script stands to one over the script and more. -/
structure ScriptReport.Precedes (more : Script) (first whole : ScriptReport) : Prop where
  announced : first.announced <+: whole.announced
  table : first.session.table.entries <+: whole.session.table.entries
  ended : ∃ outcome, first.result = .ok outcome ∧
    match outcome.ending with
    | .quit => whole = first.extend more
    | .endOfInput => more = [Script.separator] →
      whole.announced.length ≤ first.announced.length + 1

theorem ScriptReport.Precedes.after {more : Script} {first whole : ScriptReport}
    (h : first.Precedes more whole) (turn : ScriptTurn) :
    (first.after turn).Precedes more (whole.after turn) := by
  obtain ⟨announced, table, ⟨ending, counts⟩, ended, rest⟩ := h
  refine ⟨(List.prefix_append_right_inj _).mpr announced, table, _, ended, ?_⟩
  cases ending with
  | quit => exact congrArg (ScriptReport.after turn) rest
  | endOfInput =>
    intro closed
    have once := rest closed
    simp only [ScriptReport.after, List.length_append]
    omega

/-- A run that has come to the end of its script precedes every run that starts with its table. -/
theorem ScriptReport.precedes_of_end {more : Script} {first whole : ScriptReport}
    {evaluated failed : Nat} (ended : first.result = .ok ⟨.endOfInput, evaluated, failed⟩)
    (quiet : first.announced = [])
    (table : first.session.table.entries <+: whole.session.table.entries)
    (once : more = [Script.separator] → whole.announced.length ≤ 1) :
    first.Precedes more whole := by
  refine ⟨?_, table, _, ended, fun closed => ?_⟩
  · rw [quiet]
    exact List.nil_prefix
  · have bound := once closed
    omega

namespace ScriptSession

variable {s : ScriptSession}

/-- Before a turn that a run goes on after, the run precedes if it does behind the turn. -/
theorem precedes_turn {turn : ScriptTurn} {more beyond : Script} (here : s.turn = turn)
    (ahead : (s.withScript (s.script ++ more)).turn = turn.extend beyond)
    (how : turn.how = .evaluated ∨ turn.how = .failed)
    (later : ∀ evaluated failed, (turn.session.runFrom evaluated failed).Precedes more
      ((turn.session.withScript (turn.session.script ++ beyond)).runFrom evaluated failed))
    (evaluated failed : Nat) : (s.runFrom evaluated failed).Precedes more
      ((s.withScript (s.script ++ more)).runFrom evaluated failed) := by
  rw [runFrom_eq s, runFrom_eq (s.withScript (s.script ++ more)), here, ahead]
  rcases how with goesOn | goesOn
  · simp only [ScriptTurn.extend, goesOn]
    exact (later (evaluated + 1) failed).after turn
  · simp only [ScriptTurn.extend, goesOn]
    exact (later evaluated (failed + 1)).after turn

theorem precedes_quit {turn : ScriptTurn} {more : Script} (here : s.turn = turn)
    (ahead : (s.withScript (s.script ++ more)).turn = turn.extend more)
    (quits : turn.how = .finished .quit) (evaluated failed : Nat) :
    (s.runFrom evaluated failed).Precedes more
      ((s.withScript (s.script ++ more)).runFrom evaluated failed) := by
  rw [runFrom_eq s, runFrom_eq (s.withScript (s.script ++ more)), here, ahead]
  simp only [ScriptTurn.extend, quits]
  exact ⟨List.prefix_refl _, List.prefix_refl _, _, rfl, rfl⟩

/-- Over an empty script, a run precedes all. -/
theorem precedes_nil (free : s.Free) (spent : s.script = []) (more : Script)
    (evaluated failed : Nat) : (s.runFrom evaluated failed).Precedes more
      ((s.withScript (Script.dropThroughSeparator more)).runFrom evaluated failed) := by
  have bare : s = s.withScript [] := by rw [← spent]; rfl
  have run := runFrom_nil free evaluated failed
  rw [← bare] at run
  rw [run]
  have grows := prefix_runFrom (s.withScript (Script.dropThroughSeparator more)) evaluated failed
  refine ScriptReport.precedes_of_end rfl rfl grows fun closed => ?_
  subst closed
  have quiet := announced_runFrom_spent (s := s.withScript []) free (Or.inl rfl) evaluated failed
  have dropped : Script.dropThroughSeparator [Script.separator] = [] := rfl
  rw [dropped, quiet]
  exact Nat.zero_le 1

/-- A turn that announces one thing at most and leaves nothing is all that a run announces. -/
theorem length_announced_runFrom (free : s.Free) (clean : Script.Clean s.script)
    (once : s.turn.announced.length ≤ 1)
    (spent : s.turn.session.script = [] ∨ s.turn.session.script = [Script.separator])
    (evaluated failed : Nat) : (s.runFrom evaluated failed).announced.length ≤ 1 := by
  have left := (turn_clean free clean).2.1
  have later : ∀ evaluated failed,
      ((s.turn.session.runFrom evaluated failed).after s.turn).announced.length ≤ 1 := by
    intro evaluated failed
    simpa [ScriptReport.after, announced_runFrom_spent left spent] using once
  rw [runFrom_eq]
  cases s.turn.how with
  | evaluated => exact later (evaluated + 1) failed
  | failed => exact later evaluated (failed + 1)
  | finished ending => exact once
  | broken fault => exact once

theorem precedes {s : ScriptSession} (free : s.Free) (clean : Script.Clean s.script) {more : Script}
    (cleanMore : Script.Clean more) (evaluated failed : Nat) :
    (s.runFrom evaluated failed).Precedes more
      ((s.withScript (s.script ++ more)).runFrom evaluated failed) := by
  have self : s = s.withScript s.script := rfl
  obtain ⟨_, left, cleanLeft⟩ := turn_clean free clean
  -- The induction is on the list: a turn after which the run goes on leaves less of it.
  cases foresees_turn free clean with
  | sees turn how same =>
    have here : s.turn = turn := by
      have bare := same []
      rw [List.append_nil] at bare
      simpa [ScriptTurn.extend, withScript] using bare
    subst here
    rcases how with evaluates | fails | quits
    · have less := length_turn (Or.inl evaluates)
      exact precedes_turn rfl (same more) (Or.inl evaluates)
        (precedes left cleanLeft cleanMore) evaluated failed
    · have less := length_turn (Or.inr fails)
      exact precedes_turn rfl (same more) (Or.inr fails)
        (precedes left cleanLeft cleanMore) evaluated failed
    · exact precedes_quit rfl (same more) quits evaluated failed
  | drops turn how spent same =>
    have here : s.turn = turn := by
      have bare := same []
      rw [List.append_nil] at bare
      simpa [ScriptTurn.extend, withScript, Script.dropThroughSeparator] using bare
    subst here
    refine precedes_turn rfl (same more) (Or.inr how) (fun evaluated failed => ?_) evaluated failed
    rw [spent]
    exact precedes_nil left spent more evaluated failed
  | ends how quiet kept once spent =>
    have run : s.runFrom evaluated failed = ⟨.ok ⟨.endOfInput, evaluated, failed⟩, s.turn.session,
        s.turn.out, s.turn.err, s.turn.announced⟩ := by
      have how : s.turn.how = .finished .endOfInput := how
      rw [runFrom_eq]
      simp only [how]
    have kept : s.turn.session.table = s.table := kept
    rw [run]
    refine ScriptReport.precedes_of_end rfl quiet ?_ fun closed => ?_
    · show s.turn.session.table.entries <+: _
      rw [kept]
      exact prefix_runFrom (s.withScript (s.script ++ more)) _ _
    · subst closed
      exact length_announced_runFrom (s := s.withScript (s.script ++ [Script.separator])) free
        (clean.append cleanMore) once spent evaluated failed
termination_by s.script.length

end ScriptSession

/-- Bytes that no character, word or number goes on with: there are none, or they start with a blank
or the separator. -/
def Dialect.Apart (dialect : Dialect) (bytes : List UInt8) : Prop :=
  bytes = [] ∨ ∃ c rest, bytes = encodeUtf8 (String.singleton c) ++ rest ∧
    (isWhitespace c ∨ c = dialect.separator)

theorem scriptOf_append_apart {dialect : Dialect} (usable : dialect.Usable) (a : List UInt8)
    {b : List UInt8} (apart : dialect.Apart b) :
    scriptOf dialect (a ++ b) = scriptOf dialect a ++ scriptOf dialect b := by
  rcases apart with rfl | ⟨c, rest, rfl, stops⟩
  · rw [scriptOf_nil usable, List.append_nil, List.append_nil]
  · rw [encodeUtf8_singleton]
    have behind := decodeLossy_encodeChar c rest
    refine scriptOf_append usable ?_ ?_
    · rw [decodeLossy_append_encodeChar, behind]
    · rw [behind]
      rcases stops with blank | rfl
      · exact halts_blank blank _
      · exact usable.halts _

/-- More input behind a text changes nothing about what the session tells of the text and adds to
its table, and is not read at all if the session has been quit. -/
theorem more_input_keeps_results {settings : Settings}
    (accepted : settings.dialect.check = .ok ()) (table : SymbolTable) (a b : List UInt8)
    (apart : settings.dialect.Apart b) :
    let first := (Session.overBytes settings table a).run
    let whole := (Session.overBytes settings table (a ++ b)).run
    announcements first.trace <+: announcements whole.trace ∧
    first.session.table.entries <+: whole.session.table.entries ∧
    ∃ outcome further, first.result = .ok outcome ∧ whole.result = .ok further ∧
      (outcome.ending = .quit → further = outcome ∧
        announcements whole.trace = announcements first.trace ∧
        whole.session.table = first.session.table ∧
        whole.out = first.out ∧ whole.err = first.err) ∧
      (outcome.ending = .endOfInput →
        b = encodeUtf8 (String.singleton settings.dialect.separator) →
        (announcements whole.trace).length ≤ (announcements first.trace).length + 1) := by
  intro first whole
  have usable := Dialect.check_eq_ok.mp accepted
  have cleanFirst := scriptOf_clean usable a
  have cleanMore := scriptOf_clean usable b
  have joined := scriptOf_append_apart usable a apart
  have firstRun : first.scripted = (ScriptSession.ofBytes settings table a).run :=
    Session.run_overBytes accepted table a
  have wholeRun : whole.scripted = ((ScriptSession.ofBytes settings table a).withScript
      (scriptOf settings.dialect a ++ scriptOf settings.dialect b)).run := by
    rw [← joined]
    exact Session.run_overBytes accepted table (a ++ b)
  have precedes := ScriptSession.precedes (s := .ofBytes settings table a) ⟨rfl, rfl⟩ cleanFirst
    cleanMore 0 0
  obtain ⟨further, finished⟩ := ScriptSession.exists_outcome
    (s := (ScriptSession.ofBytes settings table a).withScript
      (scriptOf settings.dialect a ++ scriptOf settings.dialect b)) ⟨rfl, rfl⟩
    (cleanFirst.append cleanMore) 0 0
  have precedes : first.scripted.Precedes (scriptOf settings.dialect b) whole.scripted := by
    rw [firstRun, wholeRun]
    exact precedes
  have finished : whole.result = .ok further := (congrArg ScriptReport.result wholeRun).trans finished
  obtain ⟨announced, grows, ⟨ending, counts⟩, ended, rest⟩ := precedes
  refine ⟨announced, grows, _, further, ended, finished, ?_, ?_⟩
  · rintro rfl
    have result : whole.result = first.result := congrArg ScriptReport.result rest
    have same := finished.symm.trans (result.trans ended)
    exact ⟨Except.ok.inj same, congrArg ScriptReport.announced rest,
      congrArg (fun report => report.session.table) rest, congrArg ScriptReport.out rest,
      congrArg ScriptReport.err rest⟩
  · rintro rfl closes
    refine rest ?_
    have closed := scriptOf_closed usable []
    rwa [List.nil_append, scriptOf_nil usable, List.nil_append, ← closes] at closed

theorem more_input_keeps_results_unfinished : Dialect.check {} = .ok () ∧
    Dialect.Apart {} (encodeUtf8 (String.singleton ';')) ∧
    let first := (Session.overBytes {} .empty (encodeUtf8 "1; (2 +")).run
    let whole := (Session.overBytes {} .empty
      (encodeUtf8 "1; (2 +" ++ encodeUtf8 (String.singleton ';'))).run
    announcements first.trace <+: announcements whole.trace ∧
    first.session.table.entries <+: whole.session.table.entries ∧
    ∃ outcome further, first.result = .ok outcome ∧ whole.result = .ok further ∧
      (outcome.ending = .quit → further = outcome ∧
        announcements whole.trace = announcements first.trace ∧
        whole.session.table = first.session.table ∧
        whole.out = first.out ∧ whole.err = first.err) ∧
      (outcome.ending = .endOfInput →
        (announcements whole.trace).length ≤ (announcements first.trace).length + 1) := by
  have apart : Dialect.Apart {} (encodeUtf8 (String.singleton ';')) :=
    Or.inr ⟨';', [], by rw [List.append_nil], Or.inr rfl⟩
  refine ⟨rfl, apart, ?_⟩
  obtain ⟨announced, grows, outcome, further, ended, finished, quits, closes⟩ :=
    @more_input_keeps_results {} rfl .empty (encodeUtf8 "1; (2 +") _ apart
  exact ⟨announced, grows, outcome, further, ended, finished, quits,
    fun ending => closes ending rfl⟩

end Calculator
