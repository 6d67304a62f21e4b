import Calculator.Proofs.TwoPhases
import Calculator.Proofs.UsableNames

namespace Calculator

theorem PrimaryTree.spelling_eq_cons (tree : PrimaryTree) :
    ∃ first rest, tree.spelling = first :: rest := by
  cases tree <;> exact ⟨_, _, rfl⟩

theorem SummandPart.noFactorAhead (part : SummandPart) (rest : List Token) :
    NoFactorAhead (part.spelling ++ rest) := by
  cases part with
  | operand operator =>
    rintro token ⟨⟩
    exact ProductOperator.ofToken?_sum operator
  | term operator =>
    rintro token ⟨⟩
    exact ProductOperator.ofToken?_sum operator

mutual

/-- No tree starts with a part and a token that the part refuses. -/
theorem PrimaryPart.spelling_ne (part : PrimaryPart) {token : Token} (refused : part.Refuses token)
    (tree : PrimaryTree) {X Y : List Token} :
    tree.spelling ++ X ≠ part.spelling ++ token :: Y := by
  intro h
  cases part with
  | nothing =>
    obtain ⟨first, rest, spelled⟩ := tree.spelling_eq_cons
    rw [spelled] at h
    exact refused tree (by rw [spelled, (List.cons.inj h).1]; rfl)
  | group part =>
    cases tree with
    | group inner =>
      simp only [PrimaryTree.spelling, PrimaryPart.spelling, List.cons_append, List.append_assoc,
        List.cons.injEq, true_and] at h
      exact part.spelling_ne refused inner (noFactorAhead_rightParen X) (noTermAhead_rightParen X) h
    | _ => simp [PrimaryTree.spelling, PrimaryPart.spelling] at h
  | unclosed whole =>
    -- No operator follows the expression on either side, so both hold the same one.
    obtain ⟨closing, noTerm, noFactor⟩ := refused
    have factorEnds : NoFactorAhead (token :: Y) := by rintro next ⟨⟩; exact noFactor
    have termEnds : NoTermAhead (token :: Y) := by rintro next ⟨⟩; exact noTerm
    cases tree with
    | group inner =>
      simp only [PrimaryTree.spelling, PrimaryPart.spelling, List.cons_append, List.append_assoc,
        List.cons.injEq, true_and] at h
      obtain ⟨_, tail⟩ := inner.unique whole (noFactorAhead_rightParen X)
        (noTermAhead_rightParen X) factorEnds termEnds h
      exact closing (List.cons.inj tail).1.symm
    | _ => simp [PrimaryTree.spelling, PrimaryPart.spelling] at h
  | negative part =>
    cases tree with
    | negative operand =>
      simp only [PrimaryTree.spelling, PrimaryPart.spelling, List.cons_append, List.cons.injEq,
        true_and] at h
      exact part.spelling_ne refused operand h
    | _ => simp [PrimaryTree.spelling, PrimaryPart.spelling] at h
  | positive part =>
    cases tree with
    | positive operand =>
      simp only [PrimaryTree.spelling, PrimaryPart.spelling, List.cons_append, List.cons.injEq,
        true_and] at h
      exact part.spelling_ne refused operand h
    | _ => simp [PrimaryTree.spelling, PrimaryPart.spelling] at h
termination_by structural part

theorem TermPart.spelling_ne (part : TermPart) {token : Token} (refused : part.Refuses token)
    (tree : TermTree) {X Y : List Token} (hX : NoFactorAhead X) :
    tree.spelling ++ X ≠ part.spelling ++ token :: Y := by
  intro h
  obtain ⟨first, factors⟩ := tree
  cases part with
  | first part =>
    simp only [TermTree.spelling, TermPart.spelling, List.append_assoc] at h
    exact part.spelling_ne refused first h
  | factors whole part =>
    simp only [TermTree.spelling, TermPart.spelling, List.append_assoc] at h
    exact part.spelling_ne refused factors hX (first.unique whole h).2
termination_by structural part

theorem FactorPart.spelling_ne (part : FactorPart) {token : Token} (refused : part.Refuses token)
    (factors : FactorList) {X Y : List Token} (hX : NoFactorAhead X) :
    factors.spelling ++ X ≠ part.spelling ++ token :: Y := by
  intro h
  cases factors with
  | done =>
    cases part with
    | nothing => exact refused
    | _ => exact hX.ne h
  | factor operator operand more =>
    cases part with
    | nothing => exact refused
    | operand other part =>
      simp only [FactorList.spelling, FactorPart.spelling, List.cons_append, List.append_assoc,
        List.cons.injEq] at h
      exact part.spelling_ne refused operand h.2
    | factor other whole part =>
      simp only [FactorList.spelling, FactorPart.spelling, List.cons_append, List.append_assoc,
        List.cons.injEq] at h
      exact part.spelling_ne refused more hX (operand.unique whole h.2).2
termination_by structural part

theorem ExpressionPart.spelling_ne (part : ExpressionPart) {token : Token}
    (refused : part.Refuses token) (tree : ExpressionTree) {X Y : List Token}
    (hX : NoFactorAhead X) (hX' : NoTermAhead X) :
    tree.spelling ++ X ≠ part.spelling ++ token :: Y := by
  intro h
  obtain ⟨first, terms⟩ := tree
  cases part with
  | first part =>
    simp only [ExpressionTree.spelling, ExpressionPart.spelling, List.append_assoc] at h
    exact part.spelling_ne refused first (terms.noFactorAhead hX) h
  | terms whole part =>
    simp only [ExpressionTree.spelling, ExpressionPart.spelling, List.append_assoc] at h
    exact part.spelling_ne refused terms hX hX'
      (first.unique whole (terms.noFactorAhead hX) (part.noFactorAhead _) h).2
termination_by structural part

theorem SummandPart.spelling_ne (part : SummandPart) {token : Token} (refused : part.Refuses token)
    (terms : TermList) {X Y : List Token} (hX : NoFactorAhead X) (hX' : NoTermAhead X) :
    terms.spelling ++ X ≠ part.spelling ++ token :: Y := by
  intro h
  cases terms with
  | done => cases part <;> exact hX'.ne h
  | term operator operand more =>
    cases part with
    | operand other part =>
      simp only [TermList.spelling, SummandPart.spelling, List.cons_append, List.append_assoc,
        List.cons.injEq] at h
      exact part.spelling_ne refused operand (more.noFactorAhead hX) h.2
    | term other whole part =>
      simp only [TermList.spelling, SummandPart.spelling, List.cons_append, List.append_assoc,
        List.cons.injEq] at h
      exact part.spelling_ne refused more hX hX'
        (operand.unique whole (more.noFactorAhead hX) (part.noFactorAhead _) h.2).2
termination_by structural part

end

theorem StatementPart.spelling_ne (part : StatementPart) {token : Token}
    (refused : part.Refuses token) (tree : StatementTree) {Y : List Token} :
    tree.spelling ≠ part.spelling ++ token :: Y := by
  intro h
  cases tree with
  | expression tree =>
    obtain ⟨first, more, spelled, other⟩ := tree.head
    rw [StatementTree.spelling] at h
    cases part with
    | expression part =>
      refine part.spelling_ne refused.1 tree noFactorAhead_nil noTermAhead_nil (Y := Y) ?_
      rw [List.append_nil]
      exact h
    | _ => exact other (List.cons.inj (spelled.symm.trans h)).1
  | declaration name tree =>
    cases part with
    | expression part =>
      cases started : part.spelling with
      | nil =>
        rw [StatementPart.spelling, started] at h
        refine refused.2 ?_
        rw [started, ← (List.cons.inj h).1]
        rfl
      | cons first more =>
        -- The part is the beginning of an expression, which starts with another word.
        obtain ⟨whole, begins⟩ := part.exists_tree
        obtain ⟨head, rest, spelled, other⟩ := whole.head
        rw [started, spelled] at begins
        rw [StatementPart.spelling, started] at h
        exact other ((List.cons_prefix_cons.mp begins).1 ▸ (List.cons.inj h).1.symm)
    | nameless => exact refused name (List.cons.inj (List.cons.inj h).2).1.symm
    | signless other => exact refused (List.cons.inj (List.cons.inj (List.cons.inj h).2).2).1.symm
    | declaration other part =>
      have tail := (List.cons.inj (List.cons.inj (List.cons.inj h).2).2).2
      refine part.spelling_ne refused tree noFactorAhead_nil noTermAhead_nil (Y := Y) ?_
      rw [List.append_nil]
      exact tail

variable {α κ τ σ : Type}

/-- What a tokenizer leaves of a script starts with the token in its slot, and that is the first
token with which the script is no beginning of a tree any more. -/
def FirstRefused (spelling : τ → List Token) (script : Script) (left : Tokenizer) : Prop :=
  ∃ consumed refused, left.held = some refused ∧
    script = consumed.map .ok ++ left.stream ∧
    (∃ tree, consumed <+: spelling tree) ∧
    ∀ tree, ¬consumed ++ [refused] <+: spelling tree

namespace Production

/-- A production whose trees and parts have only operations to fail by, whose parts are beginnings
of its trees, and whose trees go on from no part with a token that the part refuses. -/
structure Faithful (p : Production κ τ σ α) : Prop where
  trees (context : κ) (tree : τ) : Operational (p.evaluate context tree)
  parts (context : κ) (part : σ) : Operational (p.attempt context part)
  begins (part : σ) : ∃ tree, p.begun part <+: p.spelling tree
  stops {part : σ} {token : Token} (refusal : p.Refuses part token) (tree : τ) (Y : List Token) :
    p.spelling tree ≠ p.begun part ++ token :: Y

theorem faithful_primary : primary.Faithful where
  trees _ tree := tree.operational
  parts _ part := part.operational
  begins part := part.exists_tree
  stops {part} _ refusal tree _ h :=
    part.spelling_ne refusal tree (X := []) ((List.append_nil _).trans h)

theorem faithful_term : term.Faithful where
  trees _ tree := tree.operational
  parts _ part := part.operational
  begins part := part.exists_tree
  stops {part} _ refusal tree _ h :=
    part.spelling_ne refusal tree noFactorAhead_nil ((List.append_nil _).trans h)

theorem faithful_expression : expression.Faithful where
  trees _ tree := tree.operational
  parts _ part := part.operational
  begins part := part.exists_tree
  stops {part} _ refusal tree _ h :=
    part.spelling_ne refusal tree noFactorAhead_nil noTermAhead_nil ((List.append_nil _).trans h)

theorem faithful_statement : statement.Faithful where
  trees _ tree := tree.operational
  parts _ part := part.operational
  begins part := part.exists_tree
  stops {part} _ refusal tree _ := part.spelling_ne refusal tree

variable {p : Production κ τ σ α} {script : Script} {building : Step τ} {evaluation : κ → Step α}

/-- An evaluation that the grammar breaks off has come to the first token that is refused. -/
theorem Agrees.firstRefused (agrees : p.Agrees script building evaluation) (faithful : p.Faithful)
    {context : κ} {cause : GrammarFault}
    (failed : (evaluation context).result = .error (.grammar cause)) :
    FirstRefused p.spelling script (evaluation context).tokens := by
  cases built : building.result with
  | ok tree =>
    obtain ⟨_, _, evaluated⟩ := agrees.whole tree built
    rw [(evaluated context).1] at failed
    rcases faithful.trees context tree _ failed with kind | kind <;> cases kind
  | error fault =>
    obtain ⟨part, ahead, spelled, obstacle, evaluated⟩ := agrees.broken fault built
    obtain ⟨same, tokens⟩ := evaluated context
    rw [same] at failed
    cases attempted : p.attempt context part with
    | error other =>
      rw [attempted] at failed
      cases failed
      rcases faithful.parts context part _ attempted with kind | kind <;> cases kind
    | ok =>
      rw [attempted] at failed
      cases failed
      rw [tokens attempted]
      generalize building.tokens = left at obstacle
      cases obstacle with
      | refused refusal held listed =>
        have starts := faithful.begins part
        refine ⟨p.begun part, _, held, by rw [spelled, listed], starts, fun tree prefixed => ?_⟩
        obtain ⟨more, whole⟩ := prefixed
        refine faithful.stops refusal tree more ?_
        rw [← whole, List.append_assoc]
        rfl
      | missing listed fails => exact absurd (Tokenizer.kind_next fails) (by simp [Fault.kind])

end Production

/-- A step fails because the grammar has no place for a token. -/
def Step.Ungrammatical (step : Step α) : Prop := ∃ cause, step.result = .error (.grammar cause)

/-- The tokens of a declaration, its first word included. -/
def declarationSpelling (declared : String × ExpressionTree) : List Token :=
  (StatementTree.declaration declared.1 declared.2).spelling

/-- Behind the word of a declaration, a statement is a declaration. -/
theorem FirstRefused.declaration {script : Script} {left : Tokenizer}
    (h : FirstRefused StatementTree.spelling (.ok (.keyword .declare) :: script) left) :
    FirstRefused declarationSpelling (.ok (.keyword .declare) :: script) left := by
  obtain ⟨consumed, refused, held, spelled, ⟨tree, begins⟩, stops⟩ := h
  refine ⟨consumed, refused, held, spelled, ?_, fun declared =>
    stops (.declaration declared.1 declared.2)⟩
  rw [Tokenizer.stream_of_held held] at spelled
  cases consumed with
  | nil =>
    cases spelled
    have whole : ExpressionTree := .expression (.term (.number 0) .done) .done
    exact absurd (List.prefix_append [_] _) (stops (.declaration "" whole))
  | cons first more =>
    cases tree with
    | declaration name tree => exact ⟨(name, tree), begins⟩
    | expression tree =>
      obtain ⟨head, rest, spelling, other⟩ := tree.head
      rw [StatementTree.spelling, spelling] at begins
      cases spelled
      exact absurd (List.cons_prefix_cons.mp begins).1.symm other

/-- What the grammar has no place for is refused at the first token where that shows. Whenever a
primary, a term, an expression, a declaration from behind its first word on, or a statement fails
so, the token in the slot is the first one with which the tokens are no beginning of anything that
the grammar derives. -/
theorem refused_at_first_token (table : SymbolTable) (t : Tokenizer) :
    ((t.primary table).Ungrammatical →
      FirstRefused PrimaryTree.spelling t.stream (t.primary table).tokens) ∧
    ((t.term table).Ungrammatical →
      FirstRefused TermTree.spelling t.stream (t.term table).tokens) ∧
    ((t.expression table).Ungrammatical →
      FirstRefused ExpressionTree.spelling t.stream (t.expression table).tokens) ∧
    ((t.declaration table).Ungrammatical →
      FirstRefused declarationSpelling (.ok (.keyword .declare) :: t.stream)
        (t.declaration table).tokens) ∧
    ((t.statement table).Ungrammatical →
      FirstRefused StatementTree.spelling t.stream (t.statement table).tokens) := by
  obtain ⟨primary, term, _, expression, _⟩ := Tokenizer.agrees_grammar t
  have declaration := Tokenizer.agrees_declaration t
  have statement := Tokenizer.agrees_statement t
  refine ⟨?_, ?_, ?_, ?_, ?_⟩
  · rintro ⟨cause, failed⟩
    exact primary.firstRefused Production.faithful_primary failed
  · rintro ⟨cause, failed⟩
    exact term.firstRefused Production.faithful_term failed
  · rintro ⟨cause, failed⟩
    exact expression.firstRefused Production.faithful_expression failed
  · rintro ⟨cause, failed⟩
    exact (declaration.firstRefused Production.faithful_statement failed).declaration
  · rintro ⟨cause, failed⟩
    exact statement.firstRefused Production.faithful_statement failed

/-- A parenthesis is not closed by a second operand, and does not start a declaration. -/
theorem refused_at_first_token_unclosed :
    let t := Tokenizer.ofSource {} (.ofBytes (encodeUtf8 "(pi e;") none)
    let table := SymbolTable.withConstants
    ((t.primary table).Ungrammatical ∧
      FirstRefused PrimaryTree.spelling t.stream (t.primary table).tokens) ∧
    ((t.term table).Ungrammatical ∧
      FirstRefused TermTree.spelling t.stream (t.term table).tokens) ∧
    ((t.expression table).Ungrammatical ∧
      FirstRefused ExpressionTree.spelling t.stream (t.expression table).tokens) ∧
    ((t.declaration table).Ungrammatical ∧
      FirstRefused declarationSpelling (.ok (.keyword .declare) :: t.stream)
        (t.declaration table).tokens) ∧
    (t.statement table).Ungrammatical ∧
      FirstRefused StatementTree.spelling t.stream (t.statement table).tokens := by
  intro t table
  have opening : Lexeme {} "(".toList "pi e;".toList (.ok (.punct .leftParen)) :=
    .symbol .leftParen _
  have operand : Lexeme {} "pi".toList " e;".toList (.ok (.identifier "pi")) :=
    .identifier (.of_isWord ' ' rfl rfl) (by decide) (by decide)
  have second : Lexeme {} "e".toList ";".toList (.ok (.identifier "e")) :=
    .identifier (.of_isWord ';' rfl rfl) (by decide) (by decide)
  have close : Lexeme {} ";".toList [] (.ok (.punct .separator)) := .symbol .separator _
  have noBlank : ∀ c ∈ ([] : List Char), isWhitespace c := List.forall_mem_nil _
  have blank : ∀ c ∈ [' '], isWhitespace c := List.forall_mem_singleton.mpr rfl
  have cut : Segmented {} "(pi e;".toList _ :=
    .next noBlank opening <| .next noBlank operand <| .next blank second <|
      .next noBlank close (.done noBlank)
  have listed : t.stream = _ := scriptOf_of_segmented (Dialect.check_eq_ok.mp rfl) cut
  obtain ⟨taken, left⟩ := Tokenizer.next_of_stream_ok listed
  have expression := congrArg Reading.result (Tokenizer.reading_expression table t)
  have declaration := congrArg Reading.result (Tokenizer.reading_declaration table t)
  have statement := congrArg Reading.result (Tokenizer.reading_statement table t)
  rw [listed] at expression declaration statement
  have primary : (t.primary table).Ungrammatical := by
    have inner := Tokenizer.reading_expression table t.next.tokens
    rw [left] at inner
    obtain ⟨closing, _⟩ := Tokenizer.next_of_stream_ok (congrArg Reading.rest inner)
    have value := congrArg Reading.result inner
    rw [Tokenizer.primary_eq, Step.andThen_of_ok taken]
    refine ⟨.closingExpected, ?_⟩
    change (Tokenizer.primaryFrom table (.punct .leftParen) t.next.tokens).result = _
    rw [Tokenizer.primaryFrom, Step.andThen_of_ok value]
    simp only [Step.andThen_of_ok closing, Tokenizer.reject,
      Tokenizer.pushBack_of_free _ (Tokenizer.held_next _)]
    rfl
  have term : (t.term table).Ungrammatical := by
    obtain ⟨cause, failed⟩ := primary
    rw [Tokenizer.term_eq, Step.andThen_of_error failed]
    exact ⟨cause, rfl⟩
  obtain ⟨p, q, r, d, s⟩ := refused_at_first_token table t
  exact ⟨⟨primary, p primary⟩, ⟨term, q term⟩, ⟨⟨_, expression⟩, r ⟨_, expression⟩⟩,
    ⟨⟨_, declaration⟩, d ⟨_, declaration⟩⟩, ⟨_, statement⟩, s ⟨_, statement⟩⟩

end Calculator
