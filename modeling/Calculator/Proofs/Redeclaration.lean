import Calculator.Proofs.FaultCauses
import Calculator.Proofs.TableGrowth

namespace Calculator

/-- The script of a declaration, from its first word to its sign. -/
def Script.declaring (name : String) (rest : Script) : Script :=
  .ok (.keyword .declare) :: .ok (.identifier name) :: .ok (.punct .equal) :: rest

variable {table : SymbolTable} {name : String} {rest : Script} {fault : Fault}

theorem SymbolTable.declare_of_isDeclared (declared : table.isDeclared name = true)
    (value : Float) : table.declare name value = .error (.name .declaredTwice name) := by
  rw [declare, if_pos declared]

namespace Script

/-- A declaration of a declared name fails with its expression, and otherwise with its name. -/
theorem statement_redeclares (declared : table.isDeclared name = true) (rest : Script) :
    (statement table (declaring name rest)).result =
      (expression table rest).result.bind fun _ => .error (.name .declaredTwice name) := by
  have steps : statement table (declaring name rest) =
      (expression table rest).andThen fun value left =>
        (⟨table.declare name value, left⟩ : Reading SymbolTable).andThen fun table left =>
          ⟨.ok ⟨value, table⟩, left⟩ := rfl
  rw [steps]
  cases read : expression table rest with
  | mk result left =>
    cases result with
    | ok value =>
      rw [Reading.andThen_ok, SymbolTable.declare_of_isDeclared declared]
      rfl
    | error fault => rfl

/-- No expression fails because a name is taken. -/
theorem ne_declaredTwice_of_fails {t : Tokenizer} (fails : Script.Fails t.stream fault)
    (name : String) : fault ≠ .name .declaredTwice name := by
  rintro rfl
  cases fails with
  | listed mem => cases Tokenizer.lexical_of_mem_stream mem rfl
  | refused _ refusal => cases refusal

end Script

/-- An expression has a value exactly if it is spelled by a tree that has it. -/
theorem Tokenizer.expression_value_iff {t : Tokenizer} (listed : t.stream = rest) (value : Float) :
    (Script.expression table rest).result = .ok value ↔
      ∃ (tree : ExpressionTree) (more : Script), rest = tree.spelling.map .ok ++ more ∧
        EndsExpression more ∧ tree.value? table = some value := by
  subst listed
  rw [← reading_expression]
  constructor
  · intro read
    obtain ⟨tree, spelled, ends, stands⟩ := leaves_expression_iff.mp ⟨read, rfl⟩
    exact ⟨tree, _, spelled, ends, stands⟩
  · rintro ⟨tree, more, spelled, ends, stands⟩
    exact (leaves_expression_iff.mpr ⟨tree, spelled, ends, stands⟩).1

/-- The tokenizer behind the first three tokens of a declaration. -/
theorem Tokenizer.exists_behind_sign {t : Tokenizer}
    (front : t.stream = Script.declaring name rest) : ∃ u : Tokenizer, u.stream = rest := by
  have named := (next_of_stream_ok front).2
  have signed := (next_of_stream_ok named).2
  exact ⟨_, (next_of_stream_ok signed).2⟩

/-- A turn whose statement is a declaration that fails leaves the table alone. -/
theorem Session.table_turn_of_declaring {s : Session}
    (front : s.tokens.stream = Script.declaring name rest)
    (fails : (Script.statement s.table (Script.declaring name rest)).result = .error fault) :
    s.turn.session.table = s.table := by
  have evaluation := congrArg Reading.result (Tokenizer.reading_statementAt s.table s.tokens)
  rw [front] at evaluation
  have failed : (Tokenizer.statementAt s.table s.tokens.firstToken).result = .error fault :=
    evaluation.trans fails
  rcases table_turn s with ⟨same, _⟩ | ⟨other, value, declares, _⟩
  · exact same
  · exact absurd declares (not_declares_of_error failed)

/-- A declared name is never declared again: the statement fails and the table stays. The name is
to blame exactly if the expression behind the sign is well-formed and has a value; if not, the
statement fails with the fault of that expression. -/
theorem redeclaration_fails (s : Session) (name : String) (rest : Script)
    (declared : s.table.isDeclared name = true)
    (front : s.tokens.stream = Script.declaring name rest) :
    s.turn.session.table = s.table ∧
      ∃ fault, (s.tokens.statement s.table).result = .error fault ∧
        (fault = .name .declaredTwice name ↔ ∃ (tree : ExpressionTree) (more : Script),
          rest = tree.spelling.map .ok ++ more ∧ EndsExpression more ∧
            (tree.value? s.table).isSome) ∧
        (fault ≠ .name .declaredTwice name →
          (Script.expression s.table rest).result = .error fault ∧ rest.Fails fault) := by
  have fails := Script.statement_redeclares declared rest
  have same := congrArg Reading.result (Tokenizer.reading_statement s.table s.tokens)
  rw [front] at same
  obtain ⟨behind, listed⟩ := Tokenizer.exists_behind_sign front
  have values (value : Float) : (Script.expression s.table rest).result = .ok value ↔ _ :=
    Tokenizer.expression_value_iff listed value
  cases read : (Script.expression s.table rest).result with
  | ok value =>
    rw [read] at fails
    refine ⟨Session.table_turn_of_declaring front fails, _, same.trans fails, ?_, ?_⟩
    · obtain ⟨tree, more, spelled, ends, stands⟩ := (values value).mp read
      exact ⟨fun _ => ⟨tree, more, spelled, ends, by rw [stands]; rfl⟩, fun _ => rfl⟩
    · exact fun other => absurd rfl other
  | error fault =>
    rw [read] at fails
    have reason := (Script.keeps_evaluate s.table .operand [] rest).fault fault read
    have blameless := Script.ne_declaredTwice_of_fails (listed.symm ▸ reason) name
    refine ⟨Session.table_turn_of_declaring front fails, fault, same.trans fails, ?_, ?_⟩
    · refine ⟨fun blamed => absurd blamed blameless, ?_⟩
      rintro ⟨tree, more, spelled, ends, stands⟩
      obtain ⟨value, stands⟩ := Option.isSome_iff_exists.mp stands
      have wellFormed := (values value).mpr ⟨tree, more, spelled, ends, stands⟩
      rw [read] at wellFormed
      cases wellFormed
    · exact fun _ => ⟨rfl, reason⟩

theorem scriptOf_declaring_pi {text : String} {more : List Char}
    {lexemes : List (List Char × Except Fault Token)}
    (letters : text.toList = "let pi = ".toList ++ more)
    (cut : Segmented {} (' ' :: more) lexemes) :
    scriptOf {} (encodeUtf8 text) = Script.declaring "pi" (lexemes.map Prod.snd) := by
  have keyword : Lexeme {} "let".toList (" pi = ".toList ++ more) (.ok (.keyword .declare)) :=
    .declareWord (.of_isWord ' ' rfl rfl) rfl
  have target : Lexeme {} "pi".toList (" = ".toList ++ more) (.ok (.identifier "pi")) :=
    .identifier (.of_isWord ' ' rfl rfl) (by decide) (by decide)
  have equal : Lexeme {} "=".toList (' ' :: more) (.ok (.punct .equal)) := .symbol .equal _
  have noBlank : ∀ c ∈ ([] : List Char), isWhitespace c := List.forall_mem_nil _
  have blank : ∀ c ∈ [' '], isWhitespace c := List.forall_mem_singleton.mpr rfl
  have whole : Segmented {} ("let pi = ".toList ++ more) _ :=
    .next noBlank keyword (.next blank target (.next blank equal cut))
  rw [← letters] at whole
  exact scriptOf_of_segmented (Dialect.check_eq_ok.mp rfl) whole

/-- A second declaration that lacks its expression fails because of the grammar, not because of the
name. -/
theorem redeclaration_blames_expression :
    ∃ s : Session, Session.start {} (.ofBytes (encodeUtf8 "let pi = ;") none) .unlimited
        .unlimited = .ok s ∧
      s.table.isDeclared "pi" = true ∧
      s.tokens.stream = Script.declaring "pi" [.ok (.punct .separator)] ∧
      (s.tokens.statement s.table).result = .error (.grammar .primaryExpected) ∧
      (s.tokens.statement s.table).result ≠ .error (.name .declaredTwice "pi") := by
  have close : Lexeme {} ";".toList [] (.ok (.punct .separator)) := .symbol .separator _
  have blank : ∀ c ∈ [' '], isWhitespace c := List.forall_mem_singleton.mpr rfl
  have listed : scriptOf {} (encodeUtf8 "let pi = ;") = _ :=
    scriptOf_declaring_pi rfl (.next blank close (.done (List.forall_mem_nil _)))
  have read := congrArg Reading.result (Tokenizer.reading_statement .withConstants
    (.ofSource {} (.ofBytes (encodeUtf8 "let pi = ;") none)))
  have fails : (Tokenizer.statement .withConstants
      (.ofSource {} (.ofBytes (encodeUtf8 "let pi = ;") none))).result =
      .error (.grammar .primaryExpected) := by
    rw [show (Tokenizer.ofSource {} _).stream = _ from listed] at read
    exact read
  refine ⟨_, Session.start_eq rfl _ _ _, by decide, listed, fails, ?_⟩
  intro blamed
  cases fails.symm.trans blamed

/-- A well-formed second declaration fails because of its name. -/
theorem redeclaration_fails_pi :
    ∃ s : Session, Session.start {} (.ofBytes (encodeUtf8 "let pi = e;") none) .unlimited
        .unlimited = .ok s ∧
      s.table.isDeclared "pi" = true ∧
      s.tokens.stream = Script.declaring "pi" [.ok (.identifier "e"), .ok (.punct .separator)] ∧
      s.turn.session.table = s.table ∧
      (s.tokens.statement s.table).result = .error (.name .declaredTwice "pi") := by
  have operand : Lexeme {} "e".toList ";".toList (.ok (.identifier "e")) :=
    .identifier (.of_isWord ';' rfl rfl) (by decide) (by decide)
  have close : Lexeme {} ";".toList [] (.ok (.punct .separator)) := .symbol .separator _
  have noBlank : ∀ c ∈ ([] : List Char), isWhitespace c := List.forall_mem_nil _
  have blank : ∀ c ∈ [' '], isWhitespace c := List.forall_mem_singleton.mpr rfl
  have listed : scriptOf {} (encodeUtf8 "let pi = e;") = _ :=
    scriptOf_declaring_pi rfl (.next blank operand (.next noBlank close (.done noBlank)))
  refine ⟨_, Session.start_eq rfl _ _ _, by decide, listed, ?_⟩
  obtain ⟨kept, fault, fails, blamed, _⟩ := redeclaration_fails
    ⟨{}, .ofSource {} (.ofBytes (encodeUtf8 "let pi = e;") none), .withConstants, .unlimited,
      .unlimited⟩ "pi" _ (by decide) listed
  have toBlame := blamed.mpr ⟨.expression (.term (.name "e") .done) .done,
    [.ok (.punct .separator)], rfl, ⟨_, _, rfl, by decide⟩, rfl⟩
  exact ⟨kept, toBlame ▸ fails⟩

end Calculator
