import Calculator.Proofs.FailingSource
import Calculator.Proofs.CleanScripts
import Calculator.Proofs.SessionOfTokens

namespace Calculator

variable {α β : Type}

/-- The tokenizer with a failure where its source ends. -/
def Tokenizer.failing (text : String) (t : Tokenizer) : Tokenizer :=
  { t with source := t.source.failing text }

/-- A tokenizer of whole lines, behind which its source ends. -/
structure Tokenizer.Lined (t : Tokenizer) : Prop where
  lines : t.source.Lined
  normal : t.source.failure = none

theorem Tokenizer.Lined.of_calm {t u : Tokenizer} {trace : List Event} (lined : t.Lined)
    (calm : Calm t trace u) : u.Lined :=
  ⟨lined.lines.of_leads calm.2.1, Source.normal_of_leads lined.normal calm.2.1⟩

/-- The step with a failure where its source ends. -/
def Step.failing (text : String) (step : Step α) : Step α :=
  ⟨step.result.mapError (Fault.orDevice text), step.tokens.failing text, step.trace⟩

namespace Step

variable {text : String}

theorem failing_eq_ok {step : Step α} {a : α} :
    (step.failing text).result = .ok a ↔ step.result = .ok a := by
  unfold failing
  cases step.result with
  | ok b => exact Iff.rfl
  | error fault => exact ⟨fun h => (by cases h), fun h => (by cases h)⟩

/-- A source that fails never simply ends. -/
theorem failing_ne_end (step : Step α) : (step.failing text).result ≠ .error .endOfInput := by
  unfold failing
  cases step.result with
  | ok b => exact fun h => by cases h
  | error fault =>
    intro h
    have same : fault.orDevice text = .endOfInput := Except.error.inj h
    unfold Fault.orDevice at same
    split at same
    next => cases same
    next more => exact more same

theorem failing_andThen {step : Step α} {f : α → Tokenizer → Step β}
    (later : ∀ a, step.result = .ok a →
      f a (step.tokens.failing text) = (f a step.tokens).failing text) :
    (step.failing text).andThen f = (step.andThen f).failing text := by
  obtain ⟨result, tokens, trace⟩ := step
  cases result with
  | ok a =>
    have same := later a rfl
    simp only [failing, andThen, Except.mapError]
    rw [same]
    rfl
  | error fault => rfl

theorem failing_settle {result : Except Fault α} (recoverable : Recoverable result)
    (t : Tokenizer) : settle result (t.failing text) = (settle result t).failing text := by
  cases result with
  | ok a => rfl
  | error fault =>
    have same : fault.orDevice text = fault :=
      Fault.orDevice_of_recoverable (recoverable fault rfl)
    simp only [settle, failing, Except.mapError, same]

end Step

namespace Tokenizer

open Step

variable {text : String} {table : SymbolTable} {t : Tokenizer}

theorem failing_next (lined : t.Lined) : (t.failing text).next = t.next.failing text := by
  obtain ⟨dialect, source, held⟩ := t
  cases held with
  | some token => rfl
  | none =>
    have read := (Source.token_failing dialect lined.lines lined.normal text).1
    simp only [failing, next] at read ⊢
    rw [read]
    cases source.token dialect with
    | ok token rest => rfl
    | error fault rest => rfl

theorem failing_pushBack (token : Token) (t : Tokenizer) :
    (t.failing text).pushBack token = (t.pushBack token).failing text := by
  obtain ⟨dialect, source, held⟩ := t
  cases held with
  | some token => rfl
  | none => rfl

theorem failing_reject (token : Token) (cause : GrammarFault) (t : Tokenizer) :
    ((t.failing text).reject token cause : Step α) = (t.reject token cause).failing text := by
  rw [reject, failing_pushBack]
  exact failing_andThen fun _ _ => rfl

/-- Each step of the evaluator takes a token first. -/
theorem failing_next_andThen {f : Token → Tokenizer → Step α} (lined : t.Lined)
    (later : ∀ token, t.next.result = .ok token → t.next.tokens.Lined →
      f token (t.next.tokens.failing text) = (f token t.next.tokens).failing text) :
    (t.failing text).next.andThen f = (t.next.andThen f).failing text := by
  rw [failing_next lined]
  exact failing_andThen fun token taken => later token taken (lined.of_calm (calm_next t))

theorem failing_primaryFrom (lined : t.Lined)
    (operand : (t.failing text).primary table = (t.primary table).failing text)
    (inner : (t.failing text).expression table = (t.expression table).failing text)
    (token : Token) :
    primaryFrom table token (t.failing text) = (primaryFrom table token t).failing text := by
  obtain ⟨_, _, onward, _⟩ := journey_calm.grammar table t
  unfold primaryFrom
  split
  next =>
    rw [inner]
    refine failing_andThen fun value _ => ?_
    refine failing_next_andThen (lined.of_calm onward) fun close _ _ => ?_
    split
    next => exact failing_settle (recoverable_ok _) _
    next => exact failing_reject _ _ _
  next =>
    rw [operand]
    exact failing_andThen fun value _ => failing_settle (recoverable_ok _) _
  next => exact operand
  next => exact failing_settle (recoverable_ok _) _
  next name => exact failing_settle (recoverable_lookup table name) _
  next => exact failing_reject _ _ _

/-- On whole lines the evaluator goes the same way whether its source ends or fails behind them. -/
theorem failing_grammar (table : SymbolTable) (text : String) (t : Tokenizer) :
    (t.Lined → (t.failing text).primary table = (t.primary table).failing text) ∧
    (t.Lined → (t.failing text).term table = (t.term table).failing text) ∧
    (t.Lined → (t.failing text).expression table = (t.expression table).failing text) ∧
    (∀ left, t.Lined →
      (t.failing text).termTail table left = (t.termTail table left).failing text) ∧
    ∀ left, t.Lined →
      (t.failing text).expressionTail table left = (t.expressionTail table left).failing text := by
  refine @grammar_induction table
    (fun t => t.Lined → (t.failing text).primary table = (t.primary table).failing text)
    (fun t => t.Lined → (t.failing text).term table = (t.term table).failing text)
    (fun t => t.Lined → (t.failing text).expression table = (t.expression table).failing text)
    (fun left t => t.Lined →
      (t.failing text).termTail table left = (t.termTail table left).failing text)
    (fun left t => t.Lined →
      (t.failing text).expressionTail table left = (t.expressionTail table left).failing text)
    ?primary ?term ?termTail ?expression ?expressionTail t
  case primary =>
    intro t ih lined
    rw [primary_eq, primary_eq]
    refine failing_next_andThen lined fun token taken rest => ?_
    obtain ⟨operand, inner⟩ := ih token taken
    rw [failing_primaryFrom rest (operand rest) (inner rest)]
    rfl
  case term =>
    intro t operand tail lined
    rw [term_eq, term_eq, operand lined]
    refine failing_andThen fun left first => ?_
    exact tail left first (lined.of_calm (journey_calm.grammar table t).1)
  case termTail =>
    intro left t ih lined
    rw [termTail_eq, termTail_eq]
    refine failing_next_andThen lined fun token taken rest => ?_
    obtain ⟨operand, tail⟩ := ih token taken
    split
    next operator _ =>
      have further := rest.of_calm (journey_calm.grammar table t.next.tokens).1
      rw [operand rest]
      refine failing_andThen fun right read => ?_
      rw [failing_settle (recoverable_apply operator left right)]
      exact failing_andThen fun value _ => tail right value read further
    next =>
      rw [failing_pushBack]
      exact failing_andThen fun _ _ => failing_settle (recoverable_ok _) _
  case expression =>
    intro t operand tail lined
    rw [expression_eq, expression_eq, operand lined]
    refine failing_andThen fun left first => ?_
    exact tail left first (lined.of_calm (journey_calm.grammar table t).2.1)
  case expressionTail =>
    intro left t ih lined
    rw [expressionTail_eq, expressionTail_eq]
    refine failing_next_andThen lined fun token taken rest => ?_
    obtain ⟨operand, tail⟩ := ih token taken
    split
    next operator _ =>
      have further := rest.of_calm (journey_calm.grammar table t.next.tokens).2.1
      rw [operand rest]
      exact failing_andThen fun right read => tail right _ read further
    next =>
      rw [failing_pushBack]
      exact failing_andThen fun _ _ => failing_settle (recoverable_ok _) _

theorem failing_expression (table : SymbolTable) (lined : t.Lined) :
    (t.failing text).expression table = (t.expression table).failing text :=
  (failing_grammar table text t).2.2.1 lined

theorem failing_declaration (table : SymbolTable) (lined : t.Lined) :
    (t.failing text).declaration table = (t.declaration table).failing text := by
  rw [declaration_eq, declaration_eq]
  refine failing_next_andThen lined fun token _ lined => ?_
  split
  next _ name _ =>
    refine failing_next_andThen lined fun sign _ lined => ?_
    split
    next =>
      rw [failing_expression table lined]
      refine failing_andThen fun value _ => ?_
      rw [failing_settle (recoverable_declare table _ value)]
      exact failing_andThen fun _ _ => rfl
    next => exact failing_reject _ _ _
  next => exact failing_reject _ _ _

theorem failing_statement (table : SymbolTable) (lined : t.Lined) :
    (t.failing text).statement table = (t.statement table).failing text := by
  rw [statement_eq, statement_eq]
  refine failing_next_andThen lined fun token _ lined => ?_
  split
  next => exact failing_declaration table lined
  next =>
    rw [failing_pushBack]
    refine failing_andThen fun _ _ => ?_
    rw [failing_expression table (lined.of_calm (calm_pushBack _ _))]
    exact failing_andThen fun value _ => failing_settle (recoverable_ok _) _

theorem failing_firstToken {t : Tokenizer} (lined : t.Lined) :
    (t.failing text).firstToken = t.firstToken.failing text := by
  rw [firstToken_eq, firstToken_eq]
  refine failing_next_andThen lined fun token taken lined => ?_
  split
  next =>
    have less := size_next_ok taken
    exact failing_firstToken lined
  next => exact failing_settle (recoverable_ok _) _
termination_by t.size

theorem failing_statementAt (table : SymbolTable) (lined : t.Lined) :
    statementAt table (t.failing text).firstToken =
      (statementAt table t.firstToken).failing text := by
  rw [failing_firstToken lined, statementAt, statementAt]
  refine failing_andThen fun token _ => ?_
  rw [failing_pushBack]
  refine failing_andThen fun _ _ => ?_
  have read := lined.of_calm (journey_calm.firstToken t)
  exact failing_statement table (read.of_calm (calm_pushBack token _))

/-- Looking for the separator meets the failure exactly where it would meet the end. -/
theorem failing_discardThrough (target : Char) (normal : t.source.failure = none) (text : String) :
    ((t.failing text).discardThrough target = (t.discardThrough target).failing text ∧
      (t.discardThrough target).result = .ok () ∧
      ∀ count, .skippedToEnd count ∉ (t.discardThrough target).trace) ∨
    ((t.failing text).discardThrough target).result = .error (.device text) ∧
      (t.discardThrough target).result = .ok () ∧
      (∃ count, .skippedToEnd count ∈ (t.discardThrough target).trace) ∧
      (t.discardThrough target).tokens.held = none ∧
      (t.discardThrough target).tokens.source.unread = [] := by
  have holds : (t.failing text).holds target = t.holds target := rfl
  unfold discardThrough
  rw [holds]
  split
  next => exact Or.inl ⟨rfl, rfl, fun count listed => by simp at listed⟩
  next =>
    rcases Source.skipThrough_failing normal text target 0 with
      ⟨count, rest, found, foundToo⟩ | ⟨count, rest, ended, used, failed⟩
    · have read : (t.failing text).source.skipThrough target 0 = _ := foundToo
      rw [found, read]
      exact Or.inl ⟨rfl, rfl, fun count listed => by simp at listed⟩
    · have read : (t.failing text).source.skipThrough target 0 = _ := failed
      rw [ended, read]
      exact Or.inr ⟨rfl, rfl, ⟨count, List.mem_singleton_self _⟩, rfl, used⟩

end Tokenizer

end Calculator
