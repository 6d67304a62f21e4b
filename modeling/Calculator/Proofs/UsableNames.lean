import Calculator.Proofs.FaultOrigin
import Calculator.Proofs.TableGrowth

namespace Calculator

theorem find?_of_mem {entries : List Variable} (unique : (entries.map Variable.name).Nodup)
    {entry : Variable} (h : entry ∈ entries) :
    entries.find? (·.name = entry.name) = some entry := by
  induction entries with
  | nil => cases h
  | cons first rest ih =>
    obtain ⟨new, further⟩ := List.nodup_cons.mp unique
    rcases List.mem_cons.mp h with rfl | later
    · exact List.find?_cons_of_pos (by simp)
    · have other : first.name ≠ entry.name := by
        intro same
        rw [same] at new
        exact new (List.mem_map_of_mem later)
      rw [List.find?_cons_of_neg (by simpa using other)]
      exact ih further later

/-- Where no name stands twice, each name stands for the value of its entry. -/
theorem SymbolTable.lookup_of_mem {table : SymbolTable}
    (unique : (table.entries.map Variable.name).Nodup) {entry : Variable}
    (h : entry ∈ table.entries) : table.lookup entry.name = .ok entry.value := by
  have found := find?_of_mem unique h
  exact lookup_eq_ok.mpr (by rw [value?, found, Option.map_some])

/-- The entries of a table that grew are words, and only those that it grew from can be keywords. -/
theorem SymbolTable.Grown.name {dialect : Dialect} {first table : SymbolTable}
    (grown : first.Grown dialect table) {entry : Variable} (h : entry ∈ table.entries) :
    entry ∈ first.entries ∨ (isWord entry.name.toList ∧ entry.name ≠ dialect.declareWord ∧
      entry.name ≠ dialect.quitWord) := by
  obtain ⟨declared, whole, words⟩ := grown.added
  rw [whole] at h
  rcases List.mem_append.mp h with seeded | new
  · exact Or.inl seeded
  · exact Or.inr (words entry new)

section Reading

variable {dialect : Dialect} {text : List Char}
  {lexemes : List (List Char × Except Fault Token)}

/-- Blanks and separators in front of a text are passed over on the way to its first token. -/
theorem Segmented.skip {front : List Char} (h : Segmented dialect text lexemes)
    (skipped : ∀ c ∈ front, isWhitespace c ∨ c = dialect.separator) :
    ∃ more, Segmented dialect (front ++ text) more ∧ ∀ ending : Script,
      Script.firstToken (more.map Prod.snd ++ ending) =
        Script.firstToken (lexemes.map Prod.snd ++ ending) := by
  induction front with
  | nil => exact ⟨lexemes, h, fun _ => rfl⟩
  | cons c front ih =>
    obtain ⟨here, later⟩ := List.forall_mem_cons.mp skipped
    obtain ⟨more, cut, same⟩ := ih later
    rcases here with blank | separator
    · exact ⟨more, cut.blank blank, same⟩
    · subst separator
      exact ⟨_, .next (List.forall_mem_nil _) (.symbol .separator _) cut, same⟩

/-- A name that stands before the separator is read as that name. -/
theorem exists_segmented_name (usable : dialect.Usable) {name : String}
    (letters : isWord name.toList) (noDeclare : name ≠ dialect.declareWord)
    (noQuit : name ≠ dialect.quitWord) (rest : List Char) :
    ∃ lexemes more, Segmented dialect (name.toList ++ dialect.separator :: rest) lexemes ∧
      lexemes.map Prod.snd = .ok (.identifier name) :: .ok (.punct .separator) :: more := by
  obtain ⟨more, further⟩ := exists_segmented usable rest
  have word : Lexeme dialect name.toList (dialect.separator :: rest) (.ok (.identifier name)) :=
    .of_name letters noDeclare noQuit (usable.halts rest)
  have close : Segmented dialect (dialect.separator :: rest) _ :=
    .next (List.forall_mem_nil _) (.symbol .separator rest) further
  exact ⟨_, more.map Prod.snd, .next (List.forall_mem_nil _) word close, rfl⟩

end Reading

namespace Tokenizer

/-- A tokenizer lists what is read at each lexeme of its text, also of a token given back, and then
how its source ends. -/
theorem Intact.stream_of_toRead {dialect : Dialect} {t : Tokenizer} {text : List Char}
    {lexemes : List (List Char × Except Fault Token)} (intact : t.Intact dialect)
    (read : t.ToRead text) (cut : Segmented dialect text lexemes) :
    t.stream = lexemes.map Prod.snd ++ t.source.ending := by
  cases read with
  | source free => exact intact.stream_of_segmented cut free rfl
  | @held token lexeme held here =>
    obtain ⟨more, further⟩ := exists_segmented intact.usable t.source.unread
    rw [intact.same] at here
    have together : Segmented dialect ([] ++ (lexeme ++ t.source.unread)) _ :=
      .next (List.forall_mem_nil _) here further
    have again := cut.unique intact.usable together
    have bare : Intact dialect { t with held := none } :=
      ⟨intact.same, intact.usable, intact.source⟩
    have rest := bare.stream_of_segmented further rfl rfl
    rw [stream_of_held held, rest, again]
    rfl

theorem Ready.intact {dialect : Dialect} {t : Tokenizer} (ready : t.Ready dialect) :
    t.Intact dialect :=
  ⟨ready.same, ready.usable, ready.whole, fun failing => absurd ready.normal failing⟩

/-- The first token and the statement behind some blanks and separators are those of the text that
is left. -/
theorem Intact.reading_behind {dialect : Dialect} {t : Tokenizer} {front text : List Char}
    {lexemes : List (List Char × Except Fault Token)} (intact : t.Intact dialect)
    (skipped : ∀ c ∈ front, isWhitespace c ∨ c = dialect.separator)
    (read : t.ToRead (front ++ text)) (cut : Segmented dialect text lexemes)
    (table : SymbolTable) :
    let first := Script.firstToken (lexemes.map Prod.snd ++ t.source.ending)
    t.firstToken.reading = first ∧ (statementAt table t.firstToken).reading =
      first.andThen fun token rest => Script.statement table (.ok token :: rest) := by
  obtain ⟨whole, cut, same⟩ := cut.skip skipped
  have listed := intact.stream_of_toRead read cut
  rw [reading_firstToken, reading_statementAt, listed, same]
  exact ⟨rfl, rfl⟩

end Tokenizer

/-- A name before the separator has the value that it stands for. -/
theorem Script.statement_name {table : SymbolTable} {name : String} {value : Float} {rest : Script}
    (known : table.lookup name = .ok value) :
    (statement table (.ok (.identifier name) :: .ok (.punct .separator) :: rest)).result =
      .ok ⟨value, table⟩ := by
  have operand : operandMove table [] (.identifier name) = .goOn (.operator value) [] := by
    rw [operandMove, known]
    rfl
  have evaluated : expression table (.ok (.identifier name) :: .ok (.punct .separator) :: rest) =
      ⟨.ok value, .ok (.punct .separator) :: rest⟩ := by
    rw [expression, evaluate_cons, Phase.move, operand]
    rfl
  have read : statement table (.ok (.identifier name) :: .ok (.punct .separator) :: rest) =
      (expression table (.ok (.identifier name) :: .ok (.punct .separator) :: rest)).andThen
        fun value rest => ⟨.ok ⟨value, table⟩, rest⟩ := rfl
  rw [read, evaluated, Reading.andThen_ok]

namespace Session

variable {s : Session}

/-- A turn that has a value to show, and has room for its prompt, shows the value. -/
theorem turn_eq_showValue {token : Token} {evaluated : Evaluated}
    (first : s.tokens.firstToken.result = .ok token) (noQuit : token ≠ .keyword .quit)
    (h : (Tokenizer.statementAt s.table s.tokens.firstToken).result = .ok evaluated)
    (prompted : (s.out.write s.settings.prompt).complete = true) :
    s.turn =
      let statement := Tokenizer.statementAt s.table s.tokens.firstToken
      let shown := s.prompted.showValue evaluated statement.tokens
      { shown with
        out := (s.out.write s.settings.prompt).kept ++ shown.out
        trace := statement.trace ++ shown.trace } := by
  have answered := answer_statement (s := s.prompted) (by simp [Session.prompted, first])
    (by simpa [Session.prompted, first] using noQuit)
  rw [turn, if_pos prompted]
  dsimp only [Session.prompted] at answered ⊢
  rw [answered, h]
  rfl

/-- A turn whose statement has a value shows the value, if there is room for it. -/
theorem turn_of_value {token : Token} {evaluated : Evaluated}
    (first : s.tokens.firstToken.result = .ok token) (noQuit : token ≠ .keyword .quit)
    (h : (Tokenizer.statementAt s.table s.tokens.firstToken).result = .ok evaluated)
    (room : s.turn.how ≠ .broken Sink.full) :
    s.turn.how = .evaluated ∧ announcements s.turn.trace = [.value evaluated.value] ∧
      s.turn.session.table = evaluated.table := by
  by_cases prompted : (s.out.write s.settings.prompt).complete = true
  case neg =>
    rw [turn, if_neg prompted] at room
    exact absurd rfl room
  case pos =>
    have quiet := (journey_calm.statementAt s.table s.tokens).2.2
    have shown := s.prompted.showValue_how evaluated
      (Tokenizer.statementAt s.table s.tokens.firstToken).tokens
    rw [turn_eq_showValue first noQuit h prompted] at room ⊢
    refine ⟨shown.resolve_right room, ?_, rfl⟩
    rw [announcements_append, quiet]
    rfl

/-- The names of a table that are no keywords can be used. -/
theorem statementAt_name {dialect : Dialect} {name : String} {value : Float}
    {front rest : List Char} (ready : s.tokens.Ready dialect) (letters : isWord name.toList)
    (noDeclare : name ≠ dialect.declareWord) (noQuit : name ≠ dialect.quitWord)
    (known : s.table.lookup name = .ok value)
    (skipped : ∀ c ∈ front, isWhitespace c ∨ c = dialect.separator)
    (read : s.tokens.ToRead (front ++ (name.toList ++ dialect.separator :: rest))) :
    s.tokens.firstToken.result = .ok (.identifier name) ∧
      (Tokenizer.statementAt s.table s.tokens.firstToken).result = .ok ⟨value, s.table⟩ := by
  obtain ⟨lexemes, more, cut, listed⟩ :=
    exists_segmented_name ready.usable letters noDeclare noQuit rest
  obtain ⟨first, statement⟩ := ready.intact.reading_behind skipped read cut s.table
  rw [listed] at first statement
  refine ⟨congrArg Reading.result first, (congrArg Reading.result statement).trans ?_⟩
  exact Script.statement_name known

end Session

theorem isWord_of_seeded {entry : Variable} (h : entry ∈ SymbolTable.withConstants.entries) :
    isWord entry.name.toList := by
  rcases List.mem_cons.mp h with rfl | h
  · rfl
  · rw [List.mem_singleton.mp h]
    rfl

/-- Every entry of a session's table can be used by its name, but for a constant whose name is
taken by a keyword. -/
theorem names_evaluate_to_entries {settings : Settings}
    (accepted : settings.dialect.check = .ok ()) (bytes : List UInt8) (out err : Sink) :
    ∃ first, Session.start settings (.ofBytes bytes none) out err = .ok first ∧
      ∀ s, first.Visits s → ∀ entry ∈ s.table.entries,
        (entry.name = settings.dialect.declareWord ∨ entry.name = settings.dialect.quitWord →
          settings.withConstants = true ∧ entry ∈ SymbolTable.withConstants.entries) ∧
        (entry.name ≠ settings.dialect.declareWord → entry.name ≠ settings.dialect.quitWord →
          ∀ front rest, (∀ c ∈ front, isWhitespace c ∨ c = settings.dialect.separator) →
            s.tokens.ToRead (front ++ (entry.name.toList ++ settings.dialect.separator :: rest)) →
            (Tokenizer.statementAt s.table s.tokens.firstToken).result =
                .ok ⟨entry.value, s.table⟩ ∧
              (s.turn.how ≠ .broken Sink.full → s.turn.how = .evaluated ∧
                announcements s.turn.trace = [.value entry.value] ∧
                s.turn.session.table = s.table)) := by
  refine ⟨_, Session.start_eq accepted _ out err, fun s visits entry listed => ?_⟩
  have grown := visits.grown (SymbolTable.nodup_seeded settings.withConstants)
  have ready := visits.onward.ready (Tokenizer.ready_ofBytes accepted bytes)
  have seeded : entry ∈ (if settings.withConstants then SymbolTable.withConstants
      else .empty).entries → settings.withConstants = true ∧
        entry ∈ SymbolTable.withConstants.entries := by
    intro constant
    split at constant
    next seeds => exact ⟨seeds, constant⟩
    next => cases constant
  constructor
  · intro keyword
    rcases grown.name listed with constant | ⟨_, noDeclare, noQuit⟩
    · exact seeded constant
    · exact (keyword.elim noDeclare noQuit).elim
  · intro noDeclare noQuit front rest skipped read
    have letters : isWord entry.name.toList := by
      rcases grown.name listed with constant | ⟨letters, _⟩
      · exact isWord_of_seeded (seeded constant).2
      · exact letters
    have known := SymbolTable.lookup_of_mem grown.unique listed
    obtain ⟨first, statement⟩ :=
      Session.statementAt_name ready letters noDeclare noQuit known skipped read
    exact ⟨statement, Session.turn_of_value first (by simp) statement⟩

/-- A constant stands for its value in the first statement of a text. -/
theorem names_evaluate_to_entries_pi : Dialect.check {} = .ok () ∧
    ∃ first, Session.start {} (.ofBytes (encodeUtf8 "pi;") none) .unlimited .unlimited =
        .ok first ∧
      ⟨"pi", 3.141592653589793⟩ ∈ first.table.entries ∧ first.turn.how = .evaluated ∧
      announcements first.turn.trace = [.value 3.141592653589793] := by
  obtain ⟨first, started, holds⟩ :=
    @names_evaluate_to_entries {} rfl (encodeUtf8 "pi;") .unlimited .unlimited
  refine ⟨rfl, first, started, ?_⟩
  rw [Session.start_eq rfl] at started
  cases started
  have listed : ⟨"pi", 3.141592653589793⟩ ∈ SymbolTable.withConstants.entries := List.mem_cons_self
  have read : (Tokenizer.ofSource {} (.ofBytes (encodeUtf8 "pi;") none)).ToRead "pi;".toList := by
    rw [← unread_of_text "pi;"]
    exact .source rfl
  obtain ⟨statement, turn⟩ := (holds _ .here _ listed).2 (by decide) (by decide) [] []
    (List.forall_mem_nil _) read
  obtain ⟨evaluated, announced, _⟩ := turn (Session.turn_not_broken rfl rfl rfl)
  exact ⟨listed, evaluated, announced⟩

/-- A constant whose name is the keyword of declarations cannot be used. -/
theorem keyword_hides_constant : Dialect.check { declareWord := "pi" } = .ok () ∧
    ∃ first, Session.start { dialect := { declareWord := "pi" } }
        (.ofBytes (encodeUtf8 "pi;") none) .unlimited .unlimited = .ok first ∧
      ⟨"pi", 3.141592653589793⟩ ∈ first.table.entries ∧ first.tokens.ToRead "pi;".toList ∧
      (Tokenizer.statementAt first.table first.tokens.firstToken).result =
        .error (.grammar .nameExpected) ∧
      first.turn.how = .failed := by
  have accepted : Dialect.check { declareWord := "pi" } = .ok () := rfl
  have keyword : Lexeme { declareWord := "pi" } "pi".toList ";".toList (.ok (.keyword .declare)) :=
    .declareWord (.of_isWord ';' rfl rfl) rfl
  have close : Lexeme { declareWord := "pi" } ";".toList [] (.ok (.punct .separator)) :=
    .symbol .separator _
  have noBlank : ∀ c ∈ ([] : List Char), isWhitespace c := List.forall_mem_nil _
  have cut : Segmented { declareWord := "pi" } "pi;".toList _ :=
    .next noBlank keyword <| .next noBlank close <| .done noBlank
  have listed : (Tokenizer.ofSource { declareWord := "pi" }
      (.ofBytes (encodeUtf8 "pi;") none)).stream =
        [.ok (.keyword .declare), .ok (.punct .separator)] :=
    scriptOf_of_segmented (Dialect.check_eq_ok.mp accepted) cut
  have ready := Tokenizer.ready_ofBytes accepted (encodeUtf8 "pi;")
  refine ⟨accepted, _, Session.start_eq accepted _ _ _, List.mem_cons_self, ?_, ?_, ?_⟩
  · rw [← unread_of_text "pi;"]
    exact .source rfl
  · have statement := Tokenizer.reading_statementAt .withConstants
      (Tokenizer.ofSource { declareWord := "pi" } (.ofBytes (encodeUtf8 "pi;") none))
    rw [listed] at statement
    exact congrArg Reading.result statement
  · have turn := (Session.scripted_turn
      (s := ⟨{ dialect := { declareWord := "pi" } }, _, .withConstants, .unlimited, .unlimited⟩)
      ready).1
    have script := congrArg (ScriptSession.mk { dialect := { declareWord := "pi" } } ·
      .withConstants .unlimited .unlimited) listed
    exact congrArg ScriptTurn.how (turn.trans (congrArg ScriptSession.turn script))

end Calculator
