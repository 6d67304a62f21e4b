import Calculator.Proofs.SessionVisits
import Calculator.Proofs.WorkableDialects

namespace Calculator

namespace SymbolTable

variable {table declared : SymbolTable} {name : String} {value : Float}

theorem entries_of_declare (h : table.declare name value = .ok declared) :
    declared.entries = table.entries ++ [⟨name, value⟩] := by
  obtain ⟨_, same⟩ := declare_eq_ok.mp h
  subst same
  rfl

theorem mem_names_of_isDeclared :
    table.isDeclared name = true ↔ name ∈ table.entries.map Variable.name := by
  simp [isDeclared]

/-- A table that grew out of a first one: no name stands in it twice, and what was added has names
that the dialect reads as names. -/
structure Grown (dialect : Dialect) (first table : SymbolTable) : Prop where
  unique : (table.entries.map Variable.name).Nodup
  added : ∃ declared, table.entries = first.entries ++ declared ∧
    ∀ entry ∈ declared, isWord entry.name.toList ∧ entry.name ≠ dialect.declareWord ∧
      entry.name ≠ dialect.quitWord

theorem Grown.refl {dialect : Dialect} (unique : (table.entries.map Variable.name).Nodup) :
    Grown dialect table table := by
  refine ⟨unique, [], (List.append_nil _).symm, ?_⟩
  intro entry h
  cases h

theorem Grown.declare {dialect : Dialect} {first : SymbolTable}
    (grown : Grown dialect first table) (h : table.declare name value = .ok declared)
    (named : isWord name.toList ∧ name ≠ dialect.declareWord ∧ name ≠ dialect.quitWord) :
    Grown dialect first declared := by
  obtain ⟨added, whole, words⟩ := grown.added
  have entries := entries_of_declare h
  have new : name ∉ table.entries.map Variable.name := by
    intro old
    have known := mem_names_of_isDeclared.mpr old
    rw [(declare_eq_ok.mp h).1] at known
    cases known
  constructor
  · rw [entries, List.map_append, List.nodup_append]
    refine ⟨grown.unique, by simp, ?_⟩
    intro other old last h same
    have last := List.mem_singleton.mp h
    subst same last
    exact new old
  · refine ⟨added ++ [⟨name, value⟩], ?_, ?_⟩
    · rw [entries, whole, List.append_assoc]
    · intro entry h
      rcases List.mem_append.mp h with old | last
      · exact words entry old
      · rw [List.mem_singleton.mp last]
        exact named

/-- No name stands twice in the table that a session starts with. -/
theorem nodup_seeded (seeds : Bool) :
    ((if seeds then withConstants else empty).entries.map Variable.name).Nodup := by
  cases seeds with
  | true => simp [withConstants]
  | false => exact List.nodup_nil

end SymbolTable

namespace Tokenizer

variable {table : SymbolTable} {t : Tokenizer} {evaluated : Evaluated}

theorem reject_ne_ok {α : Type} (token : Token) (cause : GrammarFault) (a : α) :
    (t.reject token cause).result ≠ .ok a :=
  fun accepted => Step.not_leaves_reject ⟨accepted, rfl⟩

theorem declaration_ok (h : (t.declaration table).result = .ok evaluated) :
    ∃ name, t.next.result = .ok (.identifier name) ∧
      table.declare name evaluated.value = .ok evaluated.table := by
  rw [declaration_eq] at h
  obtain ⟨token, taken, h, _⟩ := Step.andThen_ok h
  split at h
  next name =>
    obtain ⟨sign, _, h, _⟩ := Step.andThen_ok h
    split at h
    next =>
      obtain ⟨value, _, h, _⟩ := Step.andThen_ok h
      obtain ⟨declared, done, h, _⟩ := Step.andThen_ok h
      cases h
      exact ⟨_, taken, done⟩
    next => exact absurd h (reject_ne_ok _ _ _)
  next => exact absurd h (reject_ne_ok _ _ _)

/-- A statement that has a value leaves the table alone, or declares the name that it gives. -/
theorem statement_ok (h : (t.statement table).result = .ok evaluated) :
    (t.next.result ≠ .ok (.keyword .declare) ∧ evaluated.table = table) ∨
      (t.next.result = .ok (.keyword .declare) ∧
        ∃ name, t.next.tokens.next.result = .ok (.identifier name) ∧
          table.declare name evaluated.value = .ok evaluated.table) := by
  rw [statement_eq] at h
  obtain ⟨token, taken, h, _⟩ := Step.andThen_ok h
  split at h
  next => exact Or.inr ⟨taken, declaration_ok h⟩
  next other =>
    obtain ⟨_, _, h, _⟩ := Step.andThen_ok h
    obtain ⟨value, _, h, _⟩ := Step.andThen_ok h
    cases h
    refine Or.inl ⟨fun declares => ?_, rfl⟩
    rw [taken] at declares
    cases declares
    exact other rfl

theorem next_pushBack (token : Token) (free : t.held = none) :
    (t.pushBack token).tokens.next.result = .ok token ∧
      (t.pushBack token).tokens.next.tokens = t := by
  rw [pushBack_of_free token free, next_of_held rfl]
  refine ⟨rfl, ?_⟩
  rw [← free]

theorem statementAt_ok (h : (statementAt table t.firstToken).result = .ok evaluated) :
    (t.firstToken.result ≠ .ok (.keyword .declare) ∧ evaluated.table = table) ∨
      (t.firstToken.result = .ok (.keyword .declare) ∧
        ∃ name, t.firstToken.tokens.next.result = .ok (.identifier name) ∧
          table.declare name evaluated.value = .ok evaluated.table) := by
  obtain ⟨token, first, h, _⟩ := Step.andThen_ok h
  obtain ⟨_, _, h, _⟩ := Step.andThen_ok h
  obtain ⟨again, rest⟩ := next_pushBack token (held_firstToken t)
  have read := statement_ok h
  rw [rest, again] at read
  rw [first]
  exact read

end Tokenizer

namespace Session

/-- The statement of the next turn is a declaration of a name, and succeeds with a value. -/
structure Declares (s : Session) (name : String) (value : Float) : Prop where
  prompted : (s.out.write s.settings.prompt).complete = true
  keyword : s.tokens.firstToken.result = .ok (.keyword .declare)
  name : s.tokens.firstToken.tokens.next.result = .ok (.identifier name)
  succeeds : ∃ table, (Tokenizer.statementAt s.table s.tokens.firstToken).result =
    .ok ⟨value, table⟩

variable {s : Session} {name : String} {value : Float}

theorem Declares.unique {other : String} {another : Float} (h : s.Declares name value)
    (g : s.Declares other another) : name = other ∧ value = another := by
  obtain ⟨_, _, named, table, succeeds⟩ := h
  obtain ⟨_, _, named', table', succeeds'⟩ := g
  cases named.symm.trans named'
  cases succeeds.symm.trans succeeds'
  exact ⟨rfl, rfl⟩

theorem not_declares_of_error {fault : Fault}
    (h : (Tokenizer.statementAt s.table s.tokens.firstToken).result = .error fault) :
    ¬s.Declares name value := by
  intro declares
  obtain ⟨table, succeeds⟩ := declares.succeeds
  cases h.symm.trans succeeds

/-- A declaration shows in the list of the tokens to come. -/
theorem declares_of_stream {rest : Script} {table : SymbolTable}
    (prompted : (s.out.write s.settings.prompt).complete = true)
    (listed : s.tokens.stream = .ok (.keyword .declare) :: .ok (.identifier name) :: rest)
    (succeeds : (Script.statement s.table
      (.ok (.keyword .declare) :: .ok (.identifier name) :: rest)).result = .ok ⟨value, table⟩) :
    s.Declares name value := by
  have first := Tokenizer.reading_firstToken s.tokens
  have statement := Tokenizer.reading_statementAt s.table s.tokens
  rw [listed] at first statement
  refine ⟨prompted, congrArg Reading.result first, ?_, table, ?_⟩
  · exact (Tokenizer.next_of_stream_ok (congrArg Reading.rest first)).1
  · exact (congrArg Reading.result statement).trans succeeds

theorem table_recover (s : Session) (fault : Fault) (tokens : Tokenizer) :
    (s.recover fault tokens).session.table = s.table := by
  unfold recover
  dsimp only
  split
  next => rfl
  next => rfl

theorem table_conclude_error (s : Session) (fault : Fault) (tokens : Tokenizer) :
    (s.conclude (.error fault) tokens).session.table = s.table := by
  unfold conclude
  dsimp only
  split
  next => exact table_recover s fault tokens
  next => split <;> rfl

/-- The table after an answer is that of its statement, if there is one that has a value. -/
theorem table_answer (s : Session) : s.answer.session.table = s.table ∨
    ∃ evaluated, (Tokenizer.statementAt s.table s.tokens.firstToken).result = .ok evaluated ∧
      s.answer.session.table = evaluated.table := by
  unfold answer
  dsimp only
  split
  next => exact Or.inl rfl
  next => exact Or.inl rfl
  next =>
    cases result : (Tokenizer.statementAt s.table s.tokens.firstToken).result with
    | ok evaluated => exact Or.inr ⟨evaluated, rfl, rfl⟩
    | error fault => exact Or.inl (table_conclude_error s fault _)

theorem table_answer_error {fault : Fault}
    (h : (Tokenizer.statementAt s.table s.tokens.firstToken).result = .error fault) :
    s.answer.session.table = s.table := by
  rcases table_answer s with same | ⟨evaluated, succeeds, _⟩
  · exact same
  · cases h.symm.trans succeeds

theorem table_answer_declares {evaluated : Evaluated}
    (keyword : s.tokens.firstToken.result = .ok (.keyword .declare))
    (h : (Tokenizer.statementAt s.table s.tokens.firstToken).result = .ok evaluated) :
    s.answer.session.table = evaluated.table := by
  rw [answer_statement (by simp [keyword]) (by simp [keyword])]
  dsimp only
  rw [h]
  rfl

/-- The session with the prompt written. -/
def prompted (s : Session) : Session := { s with out := (s.out.write s.settings.prompt).sink }

theorem table_prompted_answer {evaluated : Evaluated}
    (h : (Tokenizer.statementAt s.table s.tokens.firstToken).result = .ok evaluated)
    (same : evaluated.table = s.table) : s.prompted.answer.session.table = s.table := by
  rcases table_answer s.prompted with kept | ⟨other, succeeds, left⟩
  · exact kept
  · cases h.symm.trans succeeds
    exact left.trans same

/-- A turn either leaves the table alone or adds what its statement declares. -/
theorem table_turn (s : Session) :
    (s.turn.session.table = s.table ∧ ∀ name value, ¬s.Declares name value) ∨
      ∃ name value, s.Declares name value ∧
        s.table.declare name value = .ok s.turn.session.table := by
  by_cases written : (s.out.write s.settings.prompt).complete = true
  case neg =>
    refine Or.inl ⟨?_, fun name value declares => written declares.prompted⟩
    rw [turn, if_neg written]
  case pos =>
    have answered : s.turn.session.table = s.prompted.answer.session.table := by
      rw [turn, if_pos written]
      rfl
    rw [answered]
    cases result : (Tokenizer.statementAt s.table s.tokens.firstToken).result with
    | error fault =>
      have kept : s.prompted.answer.session.table = s.table := table_answer_error result
      exact Or.inl ⟨kept, fun name value => not_declares_of_error result⟩
    | ok evaluated =>
      rcases Tokenizer.statementAt_ok result with ⟨other, same⟩ | ⟨keyword, name, named, done⟩
      · have kept := table_prompted_answer result same
        exact Or.inl ⟨kept, fun name value declares => other declares.keyword⟩
      · have left : s.prompted.answer.session.table = evaluated.table :=
          table_answer_declares keyword result
        have declares : s.Declares name evaluated.value :=
          ⟨written, keyword, named, evaluated.table, result⟩
        exact Or.inr ⟨name, evaluated.value, declares, left ▸ done⟩

theorem Declares.declared (h : s.Declares name value) :
    s.table.declare name value = .ok s.turn.session.table := by
  rcases table_turn s with ⟨_, undeclared⟩ | ⟨other, another, declares, done⟩
  · exact absurd h (undeclared name value)
  · obtain ⟨rfl, rfl⟩ := h.unique declares
    exact done

/-- The name of a declaration is one that the dialect reads as a name. -/
theorem Declares.named (h : s.Declares name value) : isWord name.toList ∧
    name ≠ s.tokens.dialect.declareWord ∧ name ≠ s.tokens.dialect.quitWord := by
  have read := Tokenizer.name_of_next (Tokenizer.held_firstToken s.tokens) h.name
  rwa [(journey_calm.firstToken s.tokens).1] at read

/-- A turn adds an entry exactly if its statement declares it. -/
theorem entries_turn_iff : s.turn.session.table.entries = s.table.entries ++ [⟨name, value⟩] ↔
    s.Declares name value := by
  constructor
  · intro grown
    rcases table_turn s with ⟨same, _⟩ | ⟨other, another, declares, done⟩
    · rw [same] at grown
      have short := congrArg List.length grown
      simp at short
    · rw [SymbolTable.entries_of_declare done] at grown
      have last := List.append_cancel_left grown
      cases last
      exact declares
  · exact fun declares => SymbolTable.entries_of_declare declares.declared

theorem prefix_turn (s : Session) : s.table.entries <+: s.turn.session.table.entries := by
  rcases table_turn s with ⟨same, _⟩ | ⟨name, value, _, done⟩
  · exact ⟨[], by rw [same, List.append_nil]⟩
  · exact ⟨[⟨name, value⟩], (SymbolTable.entries_of_declare done).symm⟩

theorem Visits.grows {after : Session} (visits : s.Visits after) :
    s.table.entries <+: after.table.entries :=
  visits.keeps (P := fun after => s.table.entries <+: after.table.entries)
    (fun before _ grown => grown.trans (prefix_turn before)) (List.prefix_refl _)

/-- Wherever a session gets to, its table has grown out of the first one. -/
theorem Visits.grown {after : Session} (visits : s.Visits after)
    (unique : (s.table.entries.map Variable.name).Nodup) :
    s.table.Grown s.tokens.dialect after.table := by
  refine visits.keeps (P := fun after => s.table.Grown s.tokens.dialect after.table)
    (fun before earlier grown => ?_) (.refl unique)
  rcases table_turn before with ⟨same, _⟩ | ⟨name, value, declares, done⟩
  · rw [same]
    exact grown
  · have named := declares.named
    rw [earlier.onward.dialect] at named
    exact grown.declare done named

end Session

/-- The table of a session only grows, from whatever turn and run to whatever later one, and grows
by one entry exactly in a turn whose statement is a declaration that succeeds. -/
theorem tables_grow_by_declarations {settings : Settings}
    (accepted : settings.dialect.check = .ok ()) (bytes : List UInt8) (failure : Option String)
    (out err : Sink) :
    ∃ first, Session.start settings (.ofBytes bytes failure) out err = .ok first ∧
      (∀ n, ∀ report ∈ first.runs n, first.Visits report.session) ∧
      ∀ s, first.Visits s →
        (∀ after, s.Visits after → s.table.entries <+: after.table.entries) ∧
        (∀ name value, s.turn.session.table.entries = s.table.entries ++ [⟨name, value⟩] ↔
          s.Declares name value) ∧
        (s.turn.session.table = s.table ∨ ∃ name value, s.Declares name value) ∧
        (∀ fault, (Tokenizer.statementAt s.table s.tokens.firstToken).result = .error fault →
          s.turn.session.table = s.table) ∧
        (if settings.withConstants then SymbolTable.withConstants else .empty).Grown
          settings.dialect s.table := by
  refine ⟨_, Session.start_eq accepted _ out err, fun n report => Session.visits_of_mem_runs, ?_⟩
  intro s visits
  refine ⟨fun after => Session.Visits.grows, fun name value => Session.entries_turn_iff, ?_, ?_, ?_⟩
  · rcases s.table_turn with ⟨same, _⟩ | ⟨name, value, declares, _⟩
    · exact Or.inl same
    · exact Or.inr ⟨name, value, declares⟩
  · intro fault fails
    rcases s.table_turn with ⟨same, _⟩ | ⟨name, value, declares, _⟩
    · exact same
    · exact absurd declares (Session.not_declares_of_error fails)
  · exact visits.grown (SymbolTable.nodup_seeded settings.withConstants)

/-- A name and a value that a text declares are what its first turn adds. -/
theorem tables_grow_by_declarations_copy : Dialect.check {} = .ok () ∧
    ∃ first, Session.start {} (.ofBytes (encodeUtf8 "let a=pi;") none) .unlimited ⟨some 0⟩ =
        .ok first ∧
      first.Declares "a" 3.141592653589793 ∧
      first.turn.session.table.entries = first.table.entries ++ [⟨"a", 3.141592653589793⟩] := by
  obtain ⟨first, started, _, holds⟩ :=
    @tables_grow_by_declarations {} rfl (encodeUtf8 "let a=pi;") none .unlimited ⟨some 0⟩
  have keyword : Lexeme {} "let".toList " a=pi;".toList (.ok (.keyword .declare)) :=
    .declareWord (.of_isWord ' ' rfl rfl) rfl
  have target : Lexeme {} "a".toList "=pi;".toList (.ok (.identifier "a")) :=
    .identifier (.of_isWord '=' rfl rfl) (by decide) (by decide)
  have equal : Lexeme {} "=".toList "pi;".toList (.ok (.punct .equal)) := .symbol .equal _
  have operand : Lexeme {} "pi".toList ";".toList (.ok (.identifier "pi")) :=
    .identifier (.of_isWord ';' rfl rfl) (by decide) (by decide)
  have close : Lexeme {} ";".toList [] (.ok (.punct .separator)) := .symbol .separator _
  have noBlank : ∀ c ∈ ([] : List Char), isWhitespace c := List.forall_mem_nil _
  have blank : ∀ c ∈ [' '], isWhitespace c := List.forall_mem_singleton.mpr rfl
  have cut : Segmented {} "let a=pi;".toList _ :=
    .next noBlank keyword <| .next blank target <| .next noBlank equal <| .next noBlank operand <|
      .next noBlank close <| .done noBlank
  have declares : first.Declares "a" 3.141592653589793 := by
    have listed := scriptOf_of_segmented (Dialect.check_eq_ok.mp rfl) cut
    rw [Session.start_eq rfl] at started
    cases started
    exact Session.declares_of_stream rfl listed rfl
  exact ⟨rfl, first, started, declares, ((holds first .here).2.1 _ _).mpr declares⟩

end Calculator
