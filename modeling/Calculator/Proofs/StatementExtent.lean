import Calculator.Proofs.TextPositions

namespace Calculator

variable {α β : Type}

/-- What a text has behind its first `c`, which is nothing if there is no `c`. -/
def behindFirst (c : Char) (text : List Char) : List Char := (text.dropWhile (· ≠ c)).tail

theorem behindFirst_append {c : Char} {front : List Char} (absent : c ∉ front) (rest : List Char) :
    behindFirst c (front ++ rest) = behindFirst c rest := by
  have others : ∀ d ∈ front, decide (d ≠ c) = true := fun d hd =>
    decide_eq_true (ne_of_mem_of_not_mem hd absent)
  rw [behindFirst, List.dropWhile_append_of_pos others, behindFirst]

theorem behindFirst_cons_self (c : Char) (rest : List Char) :
    behindFirst c (c :: rest) = rest := by
  simp [behindFirst]

theorem behindFirst_of_not_mem {c : Char} {text : List Char} (absent : c ∉ text) :
    behindFirst c text = [] := by
  have whole := behindFirst_append absent []
  rwa [List.append_nil] at whole

/-- A lexeme holds a separator character exactly if it is the separator. -/
theorem Lexeme.count_separator {dialect : Dialect} (usable : dialect.Usable)
    {lexeme rest : List Char} {result : Except Fault Token}
    (here : Lexeme dialect lexeme rest result) :
    [result].count Script.separator = lexeme.count dialect.separator := by
  rcases here.separator usable with ⟨rfl, rfl⟩ | ⟨absent, other⟩
  · simp
  · rw [List.count_eq_zero.mpr absent, List.count_cons_of_ne other, List.count_nil]

/-- A text holds as many separator characters as its cut holds separators. -/
theorem Segmented.count_separator {dialect : Dialect} (usable : dialect.Usable) {text : List Char}
    {lexemes : List (List Char × Except Fault Token)} (cut : Segmented dialect text lexemes) :
    (lexemes.map Prod.snd).count Script.separator = text.count dialect.separator := by
  have noBlank {blanks : List Char} (blank : ∀ c ∈ blanks, isWhitespace c) :
      blanks.count dialect.separator = 0 := by
    refine List.count_eq_zero.mpr fun hc => ?_
    have blank := blank _ hc
    rw [usable.noBlank] at blank
    cases blank
  induction cut with
  | done blank => rw [noBlank blank, List.map_nil, List.count_nil]
  | @next blanks lexeme rest result more blank here further ih =>
    have first := here.count_separator usable
    rw [List.map_cons, ← List.singleton_append, List.count_append, first, ih, List.count_append,
      List.count_append, noBlank blank, Nat.zero_add]

namespace Tokenizer

variable {dialect : Dialect} {t : Tokenizer} {text rest : List Char}

/-- A tokenizer lists as many separators as it has separator characters to read. -/
theorem Intact.count_separator (intact : t.Intact dialect) (read : t.ToRead rest) :
    t.stream.count Script.separator = rest.count dialect.separator := by
  have free : { t with held := none : Tokenizer }.stream.count Script.separator =
      t.source.unread.count dialect.separator := by
    obtain ⟨lexemes, cut⟩ := exists_segmented intact.usable t.source.unread
    have bare : Intact dialect { t with held := none } :=
      ⟨intact.same, intact.usable, intact.source⟩
    have listed : { t with held := none : Tokenizer }.stream = _ :=
      bare.stream_of_segmented cut rfl rfl
    have last := List.count_eq_zero.mpr t.source.separator_not_mem_ending
    rw [listed, List.count_append, cut.count_separator intact.usable, last, Nat.add_zero]
  cases read with
  | source empty =>
    rw [← free]
    obtain ⟨dialect, source, slot⟩ := t
    cases empty
    rfl
  | held held here =>
    rw [intact.same] at here
    have first := here.count_separator intact.usable
    rw [stream_of_held held, ← List.singleton_append, List.count_append, first, free,
      List.count_append]

end Tokenizer

/-- A reading leaves all the separators of a script. -/
def Reading.SparesSeparators (script : Script) (reading : Reading α) : Prop :=
  reading.rest.count Script.separator = script.count Script.separator

theorem Reading.SparesSeparators.behind {rest : Script} {reading : Reading α} {token : Token}
    (spares : reading.SparesSeparators rest) (other : token ≠ .punct .separator) :
    reading.SparesSeparators (.ok token :: rest) := by
  have differs : (.ok token : Except Fault Token) ≠ Script.separator := by
    intro same
    cases same
    exact other rfl
  unfold SparesSeparators at spares ⊢
  rw [List.count_cons_of_ne differs, spares]

namespace Script

variable {script : Script}

theorem count_dropThroughSeparator (script : Script) :
    (dropThroughSeparator script).count separator = script.count separator - 1 := by
  induction script with
  | nil => rfl
  | cons first rest ih =>
    by_cases same : first = separator
    · subst same
      rw [dropThroughSeparator, List.count_cons_self, Nat.add_sub_cancel]
    · rw [dropThroughSeparator_of_ne same, ih, List.count_cons_of_ne same]

theorem spares_error (fault : Fault) (rest : Script) :
    (⟨.error fault, if fault.recoverable then rest else .error fault :: rest⟩ :
      Reading α).SparesSeparators (.error fault :: rest) := by
  have other : (.error fault : Except Fault Token) ≠ separator := nofun
  unfold Reading.SparesSeparators
  split
  next => rw [List.count_cons_of_ne other]
  next => rfl

theorem spares_andThen {reading : Reading α} {f : α → Script → Reading β}
    (first : reading.SparesSeparators script)
    (second : ∀ a rest, (f a rest).SparesSeparators rest) :
    (reading.andThen f).SparesSeparators script := by
  obtain ⟨result, rest⟩ := reading
  cases result with
  | ok a => exact (second a rest).trans first
  | error fault => exact first

/-- What takes tokens other than separators, and gives separators back, leaves them all. -/
theorem spares_next {f : Token → Script → Reading α} (script : Script)
    (second : ∀ token rest, (f token rest).SparesSeparators (.ok token :: rest)) :
    ((next script).andThen f).SparesSeparators script := by
  match script with
  | [] => rfl
  | .ok token :: rest => exact second token rest
  | .error fault :: rest => exact spares_error fault rest

theorem spares_evaluate (table : SymbolTable) (phase : Phase) (frames : List Frame)
    (script : Script) : (evaluate table phase frames script).SparesSeparators script := by
  induction script generalizing phase frames with
  | nil => rfl
  | cons first rest ih =>
    cases first with
    | error fault => exact spares_error fault rest
    | ok token =>
      rw [evaluate_cons]
      by_cases same : token = .punct .separator
      · subst same
        rcases move_separator table phase frames with ⟨cause, move⟩ | ⟨value, move⟩
        · rw [move]
          rfl
        · rw [move]
          rfl
      · cases phase.move table frames token with
        | goOn after later => exact (ih after later).behind same
        | accept value => rfl
        | refuse fault givenBack =>
          cases givenBack with
          | true => rfl
          | false =>
            have spares : (⟨.error fault, rest⟩ : Reading Float).SparesSeparators rest := rfl
            exact spares.behind same

theorem spares_declaration (table : SymbolTable) (script : Script) :
    (declaration table script).SparesSeparators script := by
  refine spares_next script fun token rest => ?_
  split
  next name _ =>
    refine Reading.SparesSeparators.behind (spares_next rest fun sign rest => ?_) (by simp)
    split
    next =>
      refine Reading.SparesSeparators.behind ?_ (by simp)
      refine spares_andThen (spares_evaluate table .operand [] rest) fun value rest => ?_
      exact spares_andThen rfl fun _ _ => rfl
    next => rfl
  next => rfl

/-- A statement leaves all the separators that there are. -/
theorem spares_statement (table : SymbolTable) (script : Script) :
    (statement table script).SparesSeparators script := by
  refine spares_next script fun token rest => ?_
  split
  next => exact Reading.SparesSeparators.behind (spares_declaration table rest) (by simp)
  next => exact spares_andThen (spares_evaluate table .operand [] _) fun _ _ => rfl

end Script

namespace Tokenizer

variable {dialect : Dialect} {table : SymbolTable} {t : Tokenizer} {text rest : List Char}

/-- A step that has a result leaves a token in the slot. -/
def Holds (step : Step α) : Prop :=
  ∀ a, step.result = .ok a → ∃ token, step.tokens.held = some token

theorem holds_andThen {step : Step α} {f : α → Tokenizer → Step β}
    (second : ∀ a, step.result = .ok a → Holds (f a step.tokens)) : Holds (step.andThen f) := by
  intro b h
  obtain ⟨a, first, h, same⟩ := Step.andThen_ok h
  rw [same]
  exact second a first b h

theorem holds_settle {u : Tokenizer} {token : Token} (held : u.held = some token)
    (result : Except Fault α) : Holds (Step.settle result u) := fun _ _ => ⟨token, held⟩

theorem holds_reject (token : Token) (cause : GrammarFault) (u : Tokenizer) :
    Holds (u.reject token cause : Step α) := fun a h => absurd h (reject_ne_ok token cause a)

theorem holds_expressionTail (table : SymbolTable) (left : Float) (t : Tokenizer) :
    Holds (t.expressionTail table left) := by
  rw [expressionTail_eq]
  refine holds_andThen fun token taken => ?_
  split
  next operator _ =>
    refine holds_andThen fun right operand => ?_
    have less := size_next_ok taken
    have lesser := size_term operand
    exact holds_expressionTail table _ _
  next =>
    rw [pushBack_of_free token (held_next t)]
    exact holds_andThen fun _ _ => holds_settle rfl _
termination_by t.size

/-- Behind a statement there is a token that was looked at and given back. -/
theorem holds_statement (table : SymbolTable) (t : Tokenizer) : Holds (t.statement table) := by
  have expression (u : Tokenizer) {f : Float → Tokenizer → Step Evaluated}
      (keeps : ∀ v w token, w.held = some token → Holds (f v w)) :
      Holds ((u.expression table).andThen f) := by
    intro evaluated h
    obtain ⟨v, read, h, same⟩ := Step.andThen_ok h
    have whole : Holds (u.expression table) := by
      rw [expression_eq]
      exact holds_andThen fun left _ => holds_expressionTail table left _
    obtain ⟨token, held⟩ := whole v read
    rw [same]
    exact keeps v _ token held evaluated h
  rw [statement_eq]
  refine holds_andThen fun token _ => ?_
  split
  next =>
    rw [declaration_eq]
    refine holds_andThen fun target _ => ?_
    split
    next name =>
      refine holds_andThen fun sign _ => ?_
      split
      next =>
        refine expression _ fun v w token held => ?_
        exact holds_andThen fun declared _ => holds_settle held _
      next => exact holds_reject _ _ _
    next => exact holds_reject _ _ _
  next =>
    refine holds_andThen fun _ _ => ?_
    exact expression _ fun v w token held => holds_settle held _

/-- Skipping goes behind the first separator character that there is to read. -/
theorem Intact.unread_discardThrough (intact : t.Intact dialect) (read : t.ToRead rest) :
    (t.discardThrough dialect.separator).tokens.held = none ∧
      (t.discardThrough dialect.separator).tokens.source.unread =
        behindFirst dialect.separator rest := by
  obtain ⟨free, found, missing⟩ := intact.discardThrough
  have later := intact.of_calm (calm_discardThrough dialect.separator t)
  have before := intact.count_separator read
  have behind := later.count_separator (.source free)
  refine ⟨free, ?_⟩
  by_cases listed : Script.separator ∈ t.stream
  · -- One separator less is left, so none stands before the one that was dropped.
    obtain ⟨_, dropped, cut⟩ := found listed
    obtain ⟨front, rfl⟩ := cut rest read
    rw [dropped, Script.count_dropThroughSeparator, before, List.count_append,
      List.count_cons_self] at behind
    have absent : dialect.separator ∉ front := List.count_eq_zero.mp (by omega)
    rw [behindFirst_append absent, behindFirst_cons_self]
  · have absent : dialect.separator ∉ rest := by
      rw [← List.count_eq_zero, ← before, List.count_eq_zero]
      exact listed
    rw [(missing listed).1, behindFirst_of_not_mem absent]

/-- The characters that a statement takes, and does not give back, hold no separator. -/
theorem Intact.statement_spares (intact : t.Intact dialect) (read : t.ToRead text)
    (table : SymbolTable) : ∃ taken rest, text = taken ++ rest ∧ dialect.separator ∉ taken ∧
      (t.statement table).tokens.Intact dialect ∧ (t.statement table).tokens.ToRead rest := by
  have place : At dialect text (t.statement table).tokens :=
    @Course.statement _ _ (course_at dialect text) t [] table (.of_intact intact read)
  obtain ⟨later, rest, left, taken, rfl, _⟩ := place
  have spared : (t.statement table).tokens.stream.count Script.separator =
      t.stream.count Script.separator := by
    have reading := congrArg Reading.rest (reading_statement table t)
    have spares := Script.spares_statement table t.stream
    rwa [Reading.SparesSeparators, ← reading] at spares
  rw [later.count_separator left, intact.count_separator read, List.count_append] at spared
  exact ⟨taken, rest, rfl, List.count_eq_zero.mp (by omega), later, left⟩

/-- A statement that fails is skipped up to and including its first separator. -/
theorem Intact.unread_skipped (intact : t.Intact dialect) (read : t.ToRead text)
    (table : SymbolTable) :
    ((t.statement table).tokens.discardThrough dialect.separator).tokens.held = none ∧
      ((t.statement table).tokens.discardThrough dialect.separator).tokens.source.unread =
        behindFirst dialect.separator text := by
  obtain ⟨taken, rest, rfl, absent, later, left⟩ := intact.statement_spares read table
  rw [behindFirst_append absent]
  exact later.unread_discardThrough left

/-- A statement that succeeds has looked at one token more, and has taken no separator before. -/
theorem Intact.statement_looksAhead (intact : t.Intact dialect) (read : t.ToRead text)
    {evaluated : Evaluated} (succeeds : (t.statement table).result = .ok evaluated) :
    ∃ token, (t.statement table).tokens.held = some token ∧
      ∃ taken, text = taken ++ (t.statement table).tokens.source.unread ∧
        (dialect.separator ∉ taken ∨ (token = .punct .separator ∧
          ∃ before, taken = before ++ [dialect.separator] ∧ dialect.separator ∉ before)) := by
  obtain ⟨token, held⟩ := holds_statement table t evaluated succeeds
  obtain ⟨taken, rest, rfl, absent, later, left⟩ := intact.statement_spares read table
  refine ⟨token, held, ?_⟩
  cases left with
  | source free => cases free.symm.trans held
  | @held other lexeme held' here =>
    cases held.symm.trans held'
    rw [later.same] at here
    refine ⟨taken ++ lexeme, (List.append_assoc _ _ _).symm, ?_⟩
    rcases here.separator later.usable with ⟨rfl, same⟩ | ⟨unseen, _⟩
    · cases same
      exact Or.inr ⟨rfl, taken, rfl, absent⟩
    · refine Or.inl ?_
      rw [List.mem_append, not_or]
      exact ⟨absent, unseen⟩

/-- The first token of a statement, given back, is a place of the text. -/
theorem At.first (place : At dialect text t) {token : Token}
    (first : t.firstToken.result = .ok token) :
    (t.firstToken.tokens.pushBack token).tokens.held = some token ∧
      (t.firstToken.tokens.pushBack token).tokens.Intact dialect ∧
      ∃ rest, (t.firstToken.tokens.pushBack token).tokens.ToRead rest ∧
        Between dialect text rest := by
  obtain ⟨intact, free, lexeme, here, between⟩ :=
    (@Course.firstToken _ _ (course_at dialect text) t [] place).1 token first
  rw [pushBack_of_free token free]
  refine ⟨rfl, ⟨intact.same, intact.usable, intact.source⟩, lexeme ++ _, ?_, between⟩
  rw [← intact.same] at here
  exact .held (t := { t.firstToken.tokens with held := some token }) rfl here

end Tokenizer

/-- Statements keep to their separators. Where a statement starts, one that fails and is recovered
from leaves, once the rest of it has been skipped, just the text behind the first separator; and
one that succeeds has taken no separator, unless that is the one token it has looked ahead at. -/
theorem statements_keep_to_separators {settings : Settings}
    (accepted : settings.dialect.check = .ok ()) (bytes : List UInt8) (failure : Option String)
    (out err : Sink) :
    ∃ first, Session.start settings (.ofBytes bytes failure) out err = .ok first ∧
      (∀ n, ∀ report ∈ first.runs n, first.Visits report.session) ∧
      ∀ s, first.Visits s → ∀ token, s.tokens.firstToken.result = .ok token →
        let t := (s.tokens.firstToken.tokens.pushBack token).tokens
        let statement := t.statement s.table
        let separator := settings.dialect.separator
        t.held = some token ∧
        ∃ text, t.ToRead text ∧ Between settings.dialect first.tokens.source.unread text ∧
          (∀ fault, statement.result = .error fault → fault.recoverable = true →
            (statement.tokens.discardThrough separator).tokens.held = none ∧
            (statement.tokens.discardThrough separator).tokens.source.unread =
              behindFirst separator text) ∧
          ∀ evaluated, statement.result = .ok evaluated →
            ∃ ahead, statement.tokens.held = some ahead ∧
              ∃ taken, text = taken ++ statement.tokens.source.unread ∧
                (separator ∉ taken ∨ (ahead = .punct .separator ∧
                  ∃ before, taken = before ++ [separator] ∧ separator ∉ before)) := by
  refine ⟨_, Session.start_eq accepted _ out err, fun n report => Session.visits_of_mem_runs, ?_⟩
  intro s visits token first
  have start : Session.At (Source.ofBytes bytes failure).unread ⟨settings,
      .ofSource settings.dialect (.ofBytes bytes failure),
      if settings.withConstants then .withConstants else .empty, out, err⟩ :=
    .of_intact (Tokenizer.intact_ofBytes accepted bytes failure) (.source rfl)
  have place := visits.at start
  rw [Session.At, visits.onward.settings] at place
  obtain ⟨held, intact, text, read, between⟩ := place.first first
  exact ⟨held, text, read, between, fun _ _ _ => intact.unread_skipped read s.table,
    fun evaluated succeeds => intact.statement_looksAhead read succeeds⟩

/-- A name that is not known, inside a parenthesis that is never closed, costs the text up to the
separator. -/
theorem statements_keep_to_separators_nested : Dialect.check {} = .ok () ∧
    ∃ first, Session.start {} (.ofBytes (encodeUtf8 "(y; e") none) .unlimited .unlimited =
        .ok first ∧
      first.tokens.firstToken.result = .ok (.punct .leftParen) ∧
      let statement := (first.tokens.firstToken.tokens.pushBack (.punct .leftParen)).tokens.statement
        first.table
      statement.result = .error (.name .undefinedName "y") ∧
      (statement.tokens.discardThrough ';').tokens.held = none ∧
      (statement.tokens.discardThrough ';').tokens.source.unread = " e".toList := by
  have opening : Lexeme {} "(".toList "y; e".toList (.ok (.punct .leftParen)) :=
    .symbol .leftParen _
  have operand : Lexeme {} "y".toList "; e".toList (.ok (.identifier "y")) :=
    .identifier (.of_isWord ';' rfl rfl) (by decide) (by decide)
  have close : Lexeme {} ";".toList " e".toList (.ok (.punct .separator)) := .symbol .separator _
  have noBlank : ∀ c ∈ ([] : List Char), isWhitespace c := List.forall_mem_nil _
  have accepted : Dialect.check {} = .ok () := rfl
  obtain ⟨more, later⟩ := exists_segmented (Dialect.check_eq_ok.mp accepted) " e".toList
  have cut : Segmented {} "(y; e".toList _ :=
    .next noBlank opening <| .next noBlank operand <| .next noBlank close later
  have listed := scriptOf_of_segmented (Dialect.check_eq_ok.mp rfl) cut
  obtain ⟨first, started, _, holds⟩ :=
    @statements_keep_to_separators {} rfl (encodeUtf8 "(y; e") none .unlimited .unlimited
  have same := started
  rw [Session.start_eq rfl] at same
  cases same
  have found := Tokenizer.reading_firstToken (.ofSource {} (.ofBytes (encodeUtf8 "(y; e") none))
  rw [show (Tokenizer.ofSource {} _).stream = _ from listed] at found
  have starts := congrArg Reading.result found
  obtain ⟨held, text, read, ⟨before, whole, _⟩, fails, _⟩ := holds _ .here _ starts
  have evaluation := congrArg Reading.result (Tokenizer.reading_statement .withConstants
    ((Tokenizer.ofSource {} (.ofBytes (encodeUtf8 "(y; e") none)).firstToken.tokens.pushBack
      (.punct .leftParen)).tokens)
  rw [Tokenizer.stream_pushBack _ (Tokenizer.held_firstToken _)] at evaluation
  rw [show Tokenizer.stream _ = _ from congrArg Reading.rest found] at evaluation
  obtain ⟨free, left⟩ := fails _ evaluation rfl
  refine ⟨rfl, _, started, starts, evaluation, free, left.trans ?_⟩
  have front : ∃ rest, text = '(' :: rest := by
    cases read with
    | source empty => cases empty.symm.trans held
    | held other here =>
      cases held.symm.trans other
      cases here
      exact ⟨_, rfl⟩
  obtain ⟨rest, rfl⟩ := front
  have whole : "(y; e".toList = before ++ '(' :: rest := (unread_of_text _).symm.trans whole
  -- The text has no other parenthesis, so the statement starts with it.
  cases before with
  | nil =>
    cases whole
    rfl
  | cons c more =>
    have again : '(' ∈ "y; e".toList := by
      rw [show "y; e".toList = more ++ '(' :: rest from (List.cons.inj whole).2]
      exact List.mem_append_right _ List.mem_cons_self
    exact absurd again (by decide)

end Calculator
