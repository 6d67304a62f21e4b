import Calculator.Proofs.TreeAgreement

namespace Calculator

namespace Tokenizer

open Production (agrees_of_start agrees_settle agrees_built agrees_taken agrees_next agrees_giveBack
  agrees_reject)

def PrimaryAgrees (t : Tokenizer) : Prop :=
  Production.primary.Agrees t.stream t.primaryTree fun table => t.primary table

def TermAgrees (t : Tokenizer) : Prop :=
  Production.term.Agrees t.stream t.termTree fun table => t.term table

def FactorsAgree (t : Tokenizer) : Prop :=
  Production.factors.Agrees t.stream t.factorList fun context => t.termTail context.1 context.2

def ExpressionAgrees (t : Tokenizer) : Prop :=
  Production.expression.Agrees t.stream t.expressionTree fun table => t.expression table

/-- The terms that follow come behind a whole term, so that no operator between factors is left. -/
def TermsAgree (t : Tokenizer) : Prop := EndsTerm t.stream →
  Production.terms.Agrees t.stream t.termList fun context => t.expressionTail context.1 context.2

variable {t : Tokenizer}

theorem agrees_term (operand : t.PrimaryAgrees)
    (tail : ∀ first, t.primaryTree.result = .ok first → t.primaryTree.tokens.FactorsAgree) :
    t.TermAgrees := by
  refine agrees_of_start (termTree_eq t) (fun table => term_eq table t) ?_
  refine operand.andThen .first (fun _ => rfl) (fun _ _ _ _ h => h)
    (fun _ _ _ _ h => (h _).andThen) fun first built _ evaluated => ?_
  refine (tail first built).andThen (.factors first) (fun _ => rfl) (fun _ _ _ _ h => h)
    (fun _ _ _ table h => (evaluated table).breaksOff fun left => h (table, left))
    fun list _ ends joined => ?_
  exact agrees_settle (p := .term) (.term first list) ends fun table =>
    (evaluated table).andThen fun left => joined (table, left)

theorem agrees_factors
    (operand : ∀ token, t.next.result = .ok token → t.next.tokens.PrimaryAgrees)
    (tail : ∀ token first, t.next.result = .ok token →
      t.next.tokens.primaryTree.result = .ok first →
        t.next.tokens.primaryTree.tokens.FactorsAgree) : t.FactorsAgree := by
  refine agrees_of_start (factorList_eq t) (fun context => termTail_eq context.1 context.2 t) ?_
  refine agrees_next .nothing rfl (fun _ => rfl) fun token taken => ?_
  cases found : ProductOperator.ofToken? token with
  | none =>
    refine agrees_giveBack (held_next t) (agrees_settle (p := .factors) .done ?_ ?_)
    · rw [stream_pushBack token (held_next t)]
      exact endsTerm_cons.mpr found
    · exact fun context => Step.yields_settle (.ok context.2) _
  | some operator =>
    cases ProductOperator.token_of_ofToken? found
    rw [ProductOperator.apply_eq_evaluate]
    refine (operand _ taken).andThen (.operand operator) (fun _ => rfl) (fun _ _ _ _ h => h)
      (fun _ _ _ _ h => (h _).andThen) fun first built _ evaluated => ?_
    refine (tail _ first taken built).andThen (.factor operator first) (fun _ => rfl)
      (fun _ _ _ _ h => h) (fun _ _ _ context h => ?_) fun more _ ends joined => ?_
    · exact (evaluated context.1).breaksOff fun right =>
        (Step.yields_settle (operator.evaluate context.2 right) _).breaksOff fun value =>
          h (context.1, value)
    · exact agrees_settle (p := .factors) (.factor operator first more) ends fun context =>
        (evaluated context.1).andThen fun right =>
          (Step.yields_settle (operator.evaluate context.2 right) _).andThen fun value =>
            joined (context.1, value)

theorem agrees_expression (operand : t.TermAgrees)
    (tail : ∀ first, t.termTree.result = .ok first → t.termTree.tokens.TermsAgree) :
    t.ExpressionAgrees := by
  refine agrees_of_start (expressionTree_eq t) (fun table => expression_eq table t) ?_
  refine operand.andThen .first (fun _ => rfl) (fun _ _ _ _ h => h)
    (fun _ _ _ _ h => (h _).andThen) fun first built ends evaluated => ?_
  refine (tail first built ends).andThen (.terms first) (fun _ => rfl) (fun _ _ _ _ h => h)
    (fun _ _ _ table h => (evaluated table).breaksOff fun left => h (table, left))
    fun list _ stops joined => ?_
  exact agrees_settle (p := .expression) (.expression first list) stops fun table =>
    (evaluated table).andThen fun left => joined (table, left)

theorem agrees_terms
    (operand : ∀ token, t.next.result = .ok token → t.next.tokens.TermAgrees)
    (tail : ∀ token first, t.next.result = .ok token →
      t.next.tokens.termTree.result = .ok first →
        t.next.tokens.termTree.tokens.TermsAgree) : t.TermsAgree := by
  intro ends
  obtain ⟨token, more, listed, _⟩ := id ends
  have taken := (next_of_stream_ok listed).1
  rw [listed, endsTerm_cons] at ends
  refine agrees_of_start (termList_eq t) (fun context => expressionTail_eq context.1 context.2 t) ?_
  refine agrees_taken taken ?_
  cases found : SumOperator.ofToken? token with
  | none =>
    refine agrees_giveBack (held_next t) (agrees_settle (p := .terms) .done ?_ ?_)
    · rw [stream_pushBack token (held_next t)]
      exact endsExpression_cons.mpr ⟨found, ends⟩
    · exact fun context => Step.yields_settle (.ok context.2) _
  | some operator =>
    cases SumOperator.token_of_ofToken? found
    rw [SumOperator.apply_eq_value]
    refine (operand _ taken).andThen (.operand operator) (fun _ => rfl) (fun _ _ _ _ h => h)
      (fun _ _ _ _ h => (h _).andThen) fun first built ends evaluated => ?_
    refine (tail _ first taken built ends).andThen (.term operator first) (fun _ => rfl)
      (fun _ _ _ _ h => h) (fun _ _ _ context h => ?_) fun more _ stops joined => ?_
    · exact (evaluated context.1).breaksOff fun right =>
        h (context.1, operator.value context.2 right)
    · exact agrees_settle (p := .terms) (.term operator first more) stops fun context =>
        (evaluated context.1).andThen fun right =>
          joined (context.1, operator.value context.2 right)

/-- Another token than a closing parenthesis is refused, once the inner expression has a value. -/
theorem agrees_unclosed {u : Tokenizer} {tree : ExpressionTree} {token : Token}
    {f : Float → Token → Tokenizer → Step Float} (other : token ≠ .punct .rightParen)
    (ends : SumOperator.ofToken? token = none ∧ ProductOperator.ofToken? token = none)
    (taken : u.next.result = .ok token)
    (evaluated : ∀ table, (t.expression table).Yields (tree.evaluate table) u)
    (rejects : ∀ value, f value token u.next.tokens =
      u.next.tokens.reject token .closingExpected) :
    Production.primary.Agrees
      (([Token.punct .leftParen] ++ tree.spelling ++ [token]).map .ok ++ u.next.tokens.stream)
      (u.next.tokens.reject token .closingExpected)
      fun table => (t.expression table).andThen fun value rest => rest.next.andThen (f value) := by
  refine agrees_reject (p := .primary) (.unclosed tree) .closingExpected (held_next u) rfl
    ⟨other, ends⟩ fun table => (evaluated table).breaksOff fun value => .next taken ?_
  rw [rejects]
  exact Step.breaksOff_reject token _ (held_next u)

/-- A primary is built and evaluated alike from behind its first token on. -/
theorem agrees_primaryFrom (token : Token) (free : t.held = none) (operand : t.PrimaryAgrees)
    (inner : t.ExpressionAgrees) :
    Production.primary.Agrees (([] ++ [token]).map .ok ++ t.stream) (primaryTreeFrom token t)
      fun table => primaryFrom table token t := by
  match token with
  | .punct .leftParen =>
    simp only [primaryTreeFrom, primaryFrom]
    refine inner.andThen .group (fun _ => rfl) (fun _ _ _ _ h => h)
      (fun _ _ _ _ h => (h _).andThen) fun tree built (ends : EndsExpression _) evaluated => ?_
    obtain ⟨closer, more, listed, _⟩ := id ends
    have taken := (next_of_stream_ok listed).1
    rw [listed, endsExpression_cons] at ends
    refine agrees_built taken ?_
    cases closer with
    | punct symbol =>
      cases symbol with
      | rightParen =>
        exact agrees_settle (p := .primary) (.group tree) trivial fun table =>
          (evaluated table).keep fun value => .next taken (Step.yields_settle (.ok value) _)
      | _ => exact agrees_unclosed (by simp) ends taken evaluated fun _ => rfl
    | _ => exact agrees_unclosed (by simp) ends taken evaluated fun _ => rfl
  | .punct .minus =>
    refine operand.andThen .negative (fun _ => rfl) (fun _ _ _ _ h => h)
      (fun _ _ _ _ h => (h _).andThen) fun tree built _ evaluated => ?_
    exact agrees_settle (p := .primary) (.negative tree) trivial fun table =>
      (evaluated table).andThen fun value => Step.yields_settle (.ok (-value)) _
  | .punct .plus =>
    refine operand.andThen .positive (fun _ => rfl) (fun _ _ _ _ h => h)
      (fun _ _ _ _ h => h _) fun tree built _ evaluated => ?_
    exact agrees_settle (p := .primary) (.positive tree) trivial evaluated
  | .number value =>
    exact agrees_settle (p := .primary) (.number value) trivial fun table =>
      Step.yields_settle (.ok value) t
  | .identifier name =>
    exact agrees_settle (p := .primary) (.name name) trivial fun table =>
      Step.yields_settle (table.lookup name) t
  | .keyword _ | .punct .rightParen | .punct .star | .punct .slash | .punct .percent
  | .punct .equal | .punct .separator =>
    refine agrees_reject (p := .primary) .nothing .primaryExpected free rfl ?_ fun table =>
      Step.breaksOff_reject _ _ free
    intro tree
    cases tree <;> simp [PrimaryTree.spelling]

theorem agrees_primary
    (operand : ∀ token, t.next.result = .ok token → t.next.tokens.PrimaryAgrees)
    (inner : ∀ token, t.next.result = .ok token → t.next.tokens.ExpressionAgrees) :
    t.PrimaryAgrees := by
  refine agrees_of_start (primaryTree_eq t) (fun table => primary_eq table t) ?_
  refine agrees_next .nothing rfl (fun _ => rfl) fun token taken => ?_
  have behind := agrees_primaryFrom token (held_next t) (operand token taken) (inner token taken)
  exact behind.after [] fun _ => [.operand token]

/-- At every level of the grammar, trees are built and texts are evaluated alike. -/
theorem agrees_grammar (t : Tokenizer) : t.PrimaryAgrees ∧ t.TermAgrees ∧ t.FactorsAgree ∧
    t.ExpressionAgrees ∧ t.TermsAgree := by
  -- Every call comes behind a token or a whole operand, so that there is less left to take.
  induction size : t.size using Nat.strongRecOn generalizing t with
  | ind n ih =>
    have smaller : ∀ u : Tokenizer, u.size < t.size → u.PrimaryAgrees ∧ u.TermAgrees ∧
        u.FactorsAgree ∧ u.ExpressionAgrees ∧ u.TermsAgree :=
      fun u less => ih u.size (by omega) u rfl
    have behindNext : ∀ token, t.next.result = .ok token → _ :=
      fun _ taken => smaller t.next.tokens (size_next_ok taken)
    have primary : t.PrimaryAgrees := agrees_primary (fun token taken => (behindNext token taken).1)
      fun token taken => (behindNext token taken).2.2.2.1
    have term : t.TermAgrees := agrees_term primary fun first built =>
      (smaller _ (size_primaryTree built)).2.2.1
    refine ⟨primary, term, ?_, ?_, ?_⟩
    · refine agrees_factors (fun token taken => (behindNext token taken).1)
        fun token first taken built => (smaller _ ?_).2.2.1
      exact (size_primaryTree built).trans (size_next_ok taken)
    · exact agrees_expression term fun first built => (smaller _ (size_termTree built)).2.2.2.2
    · refine agrees_terms (fun token taken => (behindNext token taken).2.1)
        fun token first taken built => (smaller _ ?_).2.2.2.2
      exact (size_termTree built).trans (size_next_ok taken)

theorem agrees_signless (name : String) {token : Token} (other : token ≠ .punct .equal)
    (free : t.held = none) :
    Production.statement.Agrees
      (([Token.keyword .declare, .identifier name] ++ [token]).map .ok ++ t.stream)
      (t.reject token .equalExpected) fun _ => t.reject token .equalExpected :=
  agrees_reject (p := .statement) (.signless name) .equalExpected free rfl other fun _ =>
    Step.breaksOff_reject token _ free

theorem agrees_declaration (t : Tokenizer) :
    Production.statement.Agrees (([] ++ [Token.keyword .declare]).map .ok ++ t.stream)
      t.declarationTree fun table => t.declaration table := by
  simp only [declaration_eq]
  refine agrees_next .nameless rfl (fun _ => rfl) fun name named => ?_
  cases name with
  | identifier name =>
    refine agrees_next (.signless name) rfl (fun _ => rfl) fun sign signed => ?_
    cases sign with
    | punct symbol =>
      cases symbol with
      | equal =>
        refine (agrees_grammar t.next.tokens.next.tokens).2.2.2.1.andThen (.declaration name)
          (fun _ => rfl) (fun _ _ _ _ h => h) (fun _ _ _ _ h => (h _).andThen)
          fun tree built ends evaluated => ?_
        exact agrees_settle (p := .statement) (.declaration name tree) ends fun table =>
          (evaluated table).andThen fun value =>
            (Step.yields_settle (table.declare name value) _).andThen fun _ =>
              ⟨rfl, fun _ _ => rfl⟩
      | _ => exact agrees_signless name (by simp) (held_next _)
    | _ => exact agrees_signless name (by simp) (held_next _)
  | _ =>
    refine agrees_reject (p := .statement) .nameless .nameExpected (held_next _) rfl ?_ fun table =>
      Step.breaksOff_reject _ _ (held_next _)
    exact fun name h => by cases h

/-- A statement that is no declaration is the expression that starts with its first token. -/
theorem agrees_bare {token : Token} (other : token ≠ .keyword .declare) (free : t.held = none) :
    Production.statement.Agrees (([] ++ [token]).map .ok ++ t.stream)
      ((t.pushBack token).andThen fun _ rest =>
        rest.expressionTree.andThen fun tree rest => .settle (.ok (.expression tree)) rest)
      fun table => (t.pushBack token).andThen fun _ rest =>
        (rest.expression table).andThen fun value rest => .settle (.ok ⟨value, table⟩) rest := by
  refine agrees_giveBack free ?_
  refine (agrees_grammar _).2.2.2.1.andThen .expression (fun _ => rfl)
    (fun part rejected more spelled refused => ⟨refused, fun word => ?_⟩)
    (fun _ _ _ _ h => (h _).andThen) fun tree built ends evaluated => ?_
  · have front : .ok token :: t.stream = (part.spelling ++ [rejected]).map .ok ++ more := by
      rw [← stream_pushBack token free, spelled, List.map_append, List.append_assoc]
      rfl
    rw [word] at front
    cases front
    exact other rfl
  exact agrees_settle (p := .statement) (.expression tree) ends fun table =>
    (evaluated table).andThen fun _ => ⟨rfl, fun _ _ => rfl⟩

theorem agrees_statement (t : Tokenizer) :
    Production.statement.Agrees t.stream t.statementTree fun table => t.statement table := by
  refine agrees_of_start rfl (fun table => statement_eq table t) ?_
  refine agrees_next (.expression (.first (.first .nothing))) rfl (fun _ => rfl)
    fun token taken => ?_
  cases token with
  | keyword word =>
    cases word with
    | declare => exact agrees_declaration t.next.tokens
    | quit => exact agrees_bare (by simp) (held_next t)
  | _ => exact agrees_bare (by simp) (held_next t)

end Tokenizer

/-- Evaluating a statement in one pass agrees with building its tree and then evaluating that. If
there is a tree, the statement comes to what the tree comes to, and leaves what the builder leaves.
If the builder fails, so does the statement: with the first operation that fails of those that have
all their operands before the obstacle, and with the builder's own fault if none of them fails. -/
theorem one_pass_agrees_with_two (t : Tokenizer) :
    match t.statementTree.result with
    | .ok tree =>
      t.stream = tree.spelling.map .ok ++ t.statementTree.tokens.stream ∧
        EndsExpression t.statementTree.tokens.stream ∧
        ∀ table, (t.statement table).Yields (tree.evaluate table) t.statementTree.tokens ∧
          Operational (tree.evaluate table) ∧
          (tree.evaluate table).toOption = tree.result? table
    | .error fault =>
      fault.kind ∈ [FaultKind.grammar, .lexical, .endOfInput, .device] ∧
        ∃ (part : StatementPart) (ahead : Script), t.stream = part.spelling.map .ok ++ ahead ∧
          (∃ tree : StatementTree, part.spelling <+: tree.spelling) ∧
          Obstacle (fun token => part.Refuses token) ahead fault t.statementTree.tokens ∧
          ∀ table, (t.statement table).BreaksOff (part.attempt table) fault t.statementTree.tokens ∧
            Operational (part.attempt table) := by
  have agrees := Tokenizer.agrees_statement t
  split
  next tree built =>
    obtain ⟨spelled, ends, evaluated⟩ := agrees.whole tree built
    exact ⟨spelled, ends, fun table =>
      ⟨evaluated table, tree.operational, tree.toOption_evaluate table⟩⟩
  next fault failed =>
    obtain ⟨part, ahead, spelled, obstacle, evaluated⟩ := agrees.broken fault failed
    exact ⟨obstacle.kind, part, ahead, spelled, part.exists_tree, obstacle, fun table =>
      ⟨evaluated table, part.operational⟩⟩

end Calculator
