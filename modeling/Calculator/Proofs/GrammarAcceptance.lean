import Calculator.Proofs.ExactRemainder
import Calculator.Proofs.GrammarInduction
import Calculator.Proofs.Stream
import Calculator.Proofs.SyntaxTree

namespace Calculator

variable {α β : Type}

/-- A step has a result and leaves the rest of a token stream. -/
def Step.Leaves (step : Step α) (a : α) (rest : List (Except Fault Token)) : Prop :=
  step.result = .ok a ∧ step.tokens.stream = rest

/-- What a term is followed by: a token, and no operator between factors. -/
def EndsTerm (rest : List (Except Fault Token)) : Prop :=
  ∃ token more, rest = .ok token :: more ∧
    token ∉ [.punct .star, .punct .slash, .punct .percent]

/-- What an expression is followed by: a token, and no binary operator. -/
def EndsExpression (rest : List (Except Fault Token)) : Prop :=
  ∃ token more, rest = .ok token :: more ∧
    token ∉ [.punct .plus, .punct .minus, .punct .star, .punct .slash, .punct .percent]

theorem ProductOperator.ofToken?_eq_none {token : Token} : ofToken? token = none ↔
    token ∉ [.punct .star, .punct .slash, .punct .percent] := by
  constructor
  · intro refused listed
    simp only [List.mem_cons, List.not_mem_nil, or_false] at listed
    rcases listed with rfl | rfl | rfl <;> cases refused
  · intro other
    cases h : ofToken? token with
    | none => rfl
    | some operator =>
      rw [← token_of_ofToken? h] at other
      cases operator <;> simp [ProductOperator.token] at other

theorem SumOperator.ofToken?_eq_none {token : Token} : ofToken? token = none ↔
    token ∉ [.punct .plus, .punct .minus] := by
  constructor
  · intro refused listed
    simp only [List.mem_cons, List.not_mem_nil, or_false] at listed
    rcases listed with rfl | rfl <;> cases refused
  · intro other
    cases h : ofToken? token with
    | none => rfl
    | some operator =>
      rw [← token_of_ofToken? h] at other
      cases operator <;> simp [SumOperator.token] at other

theorem endsTerm_cons {token : Token} {more : List (Except Fault Token)} :
    EndsTerm (.ok token :: more) ↔ ProductOperator.ofToken? token = none := by
  rw [ProductOperator.ofToken?_eq_none]
  constructor
  · rintro ⟨_, _, h, other⟩
    cases h
    exact other
  · exact fun other => ⟨token, more, rfl, other⟩

theorem endsExpression_cons {token : Token} {more : List (Except Fault Token)} :
    EndsExpression (.ok token :: more) ↔
      SumOperator.ofToken? token = none ∧ ProductOperator.ofToken? token = none := by
  rw [SumOperator.ofToken?_eq_none, ProductOperator.ofToken?_eq_none]
  have parts : token ∉ [.punct .plus, .punct .minus, .punct .star, .punct .slash,
      .punct .percent] ↔ token ∉ [.punct .plus, .punct .minus] ∧
      token ∉ [.punct .star, .punct .slash, .punct .percent] := by simp [and_assoc]
  rw [← parts]
  constructor
  · rintro ⟨_, _, h, other⟩
    cases h
    exact other
  · exact fun other => ⟨token, more, rfl, other⟩

theorem EndsExpression.endsTerm {rest : List (Except Fault Token)} (h : EndsExpression rest) :
    EndsTerm rest := by
  obtain ⟨token, more, rfl, other⟩ := h
  exact endsTerm_cons.mpr (endsExpression_cons.mp ⟨token, more, rfl, other⟩).2

namespace Step

theorem leaves_andThen {step : Step α} {f : α → Tokenizer → Step β} {b : β}
    {rest : List (Except Fault Token)} : (step.andThen f).Leaves b rest ↔
      ∃ a, step.result = .ok a ∧ (f a step.tokens).Leaves b rest := by
  constructor
  · rintro ⟨ok, left⟩
    obtain ⟨a, first, second, same⟩ := andThen_ok ok
    exact ⟨a, first, second, by rw [← same, left]⟩
  · rintro ⟨a, first, second, left⟩
    rw [andThen_of_ok first]
    exact ⟨second, left⟩

@[simp] theorem leaves_after {trace : List Event} {step : Step α} {a : α}
    {rest : List (Except Fault Token)} : (step.after trace).Leaves a rest ↔ step.Leaves a rest :=
  Iff.rfl

@[simp] theorem leaves_settle {result : Except Fault α} {t : Tokenizer} {a : α}
    {rest : List (Except Fault Token)} :
    (settle result t).Leaves a rest ↔ result = .ok a ∧ t.stream = rest := Iff.rfl

theorem not_leaves_reject {token : Token} {cause : GrammarFault} {t : Tokenizer} {a : α}
    {rest : List (Except Fault Token)} : ¬(t.reject token cause : Step α).Leaves a rest := by
  intro h
  obtain ⟨_, _, broken, _⟩ := leaves_andThen.mp h
  cases broken

end Step

namespace Tokenizer

theorem leaves_next {t : Tokenizer} {f : Token → Tokenizer → Step α} {a : α}
    {rest : List (Except Fault Token)} : (t.next.andThen f).Leaves a rest ↔
      ∃ token, t.stream = .ok token :: t.next.tokens.stream ∧
        (f token t.next.tokens).Leaves a rest := by
  rw [Step.leaves_andThen]
  constructor
  · rintro ⟨token, taken, more⟩
    exact ⟨token, stream_of_ok taken, more⟩
  · rintro ⟨token, front, more⟩
    exact ⟨token, (next_of_stream_ok front).1, more⟩

theorem leaves_pushBack_next {t : Tokenizer} {token : Token} {f : Unit → Tokenizer → Step α} {a : α}
    {rest : List (Except Fault Token)} :
    ((t.next.tokens.pushBack token).andThen f).Leaves a rest ↔
      (f () { t.next.tokens with held := some token }).Leaves a rest := by
  rw [pushBack_of_free token (held_next t)]
  exact Step.leaves_after

theorem stream_held_next (t : Tokenizer) (token : Token) :
    { t.next.tokens with held := some token : Tokenizer }.stream =
      .ok token :: t.next.tokens.stream := by
  have again := stream_pushBack token (held_next t)
  rwa [pushBack_of_free token (held_next t)] at again

section Leaves

variable {table : SymbolTable} {t : Tokenizer} {left v : Float} {token : Token}
  {rest : List (Except Fault Token)}

theorem leaves_primary (front : t.stream = .ok token :: t.next.tokens.stream) :
    (t.primary table).Leaves v rest ↔ (primaryFrom table token t.next.tokens).Leaves v rest := by
  rw [primary_eq, Step.andThen_of_ok (next_of_stream_ok front).1]
  exact Iff.rfl

theorem leaves_termTail_operator {operator : ProductOperator}
    (front : t.stream = .ok token :: t.next.tokens.stream)
    (sign : ProductOperator.ofToken? token = some operator) :
    (t.termTail table left).Leaves v rest ↔ ∃ right value,
      (t.next.tokens.primary table).result = .ok right ∧
        operator.value? left right = some value ∧
          ((t.next.tokens.primary table).tokens.termTail table value).Leaves v rest := by
  rw [termTail_eq, Step.andThen_of_ok (next_of_stream_ok front).1]
  simp only [sign, Step.leaves_after, Step.leaves_andThen]
  constructor
  · rintro ⟨right, operand, value, joined, more⟩
    exact ⟨right, value, operand, ProductOperator.apply_eq_ok.mp joined, more⟩
  · rintro ⟨right, value, operand, joined, more⟩
    exact ⟨right, operand, value, ProductOperator.apply_eq_ok.mpr joined, more⟩

theorem leaves_termTail_stop (front : t.stream = .ok token :: t.next.tokens.stream)
    (stops : ProductOperator.ofToken? token = none) :
    (t.termTail table left).Leaves v rest ↔ left = v ∧ t.stream = rest := by
  rw [termTail_eq, Step.andThen_of_ok (next_of_stream_ok front).1]
  simp only [stops, Step.leaves_after, leaves_pushBack_next, Step.leaves_settle, stream_held_next,
    Except.ok.injEq, ← front]

theorem leaves_expressionTail_operator {operator : SumOperator}
    (front : t.stream = .ok token :: t.next.tokens.stream)
    (sign : SumOperator.ofToken? token = some operator) :
    (t.expressionTail table left).Leaves v rest ↔ ∃ right,
      (t.next.tokens.term table).result = .ok right ∧
        ((t.next.tokens.term table).tokens.expressionTail table
          (operator.value left right)).Leaves v rest := by
  rw [expressionTail_eq, Step.andThen_of_ok (next_of_stream_ok front).1,
    SumOperator.apply_eq_value]
  simp only [sign, Step.leaves_after, Step.leaves_andThen]

theorem leaves_expressionTail_stop (front : t.stream = .ok token :: t.next.tokens.stream)
    (stops : SumOperator.ofToken? token = none) :
    (t.expressionTail table left).Leaves v rest ↔ left = v ∧ t.stream = rest := by
  rw [expressionTail_eq, Step.andThen_of_ok (next_of_stream_ok front).1]
  simp only [stops, Step.leaves_after, leaves_pushBack_next, Step.leaves_settle, stream_held_next,
    Except.ok.injEq, ← front]

theorem leaves_term : (t.term table).Leaves v rest ↔ ∃ first,
    (t.primary table).result = .ok first ∧
      ((t.primary table).tokens.termTail table first).Leaves v rest := by
  rw [term_eq, Step.leaves_andThen]

theorem leaves_expression : (t.expression table).Leaves v rest ↔ ∃ first,
    (t.term table).result = .ok first ∧
      ((t.term table).tokens.expressionTail table first).Leaves v rest := by
  rw [expression_eq, Step.leaves_andThen]

end Leaves

end Tokenizer

theorem SymbolTable.lookup_eq_ok {table : SymbolTable} {name : String} {v : Float} :
    table.lookup name = .ok v ↔ table.value? name = some v := by
  unfold lookup
  cases table.value? name <;> simp

namespace Tokenizer

def PrimarySound (table : SymbolTable) (t : Tokenizer) : Prop :=
  ∀ v rest, (t.primary table).Leaves v rest → ∃ tree : PrimaryTree,
    t.stream = tree.spelling.map .ok ++ rest ∧ tree.value? table = some v

def TermSound (table : SymbolTable) (t : Tokenizer) : Prop :=
  ∀ v rest, (t.term table).Leaves v rest → ∃ tree : TermTree,
    t.stream = tree.spelling.map .ok ++ rest ∧ EndsTerm rest ∧ tree.value? table = some v

def TermTailSound (table : SymbolTable) (left : Float) (t : Tokenizer) : Prop :=
  ∀ v rest, (t.termTail table left).Leaves v rest → ∃ factors : FactorList,
    t.stream = factors.spelling.map .ok ++ rest ∧ EndsTerm rest ∧
      factors.valueFrom? table left = some v

def ExpressionSound (table : SymbolTable) (t : Tokenizer) : Prop :=
  ∀ v rest, (t.expression table).Leaves v rest → ∃ tree : ExpressionTree,
    t.stream = tree.spelling.map .ok ++ rest ∧ EndsExpression rest ∧ tree.value? table = some v

/-- The terms that follow are accepted only behind a whole term, which leaves no operator between
factors. -/
def ExpressionTailSound (table : SymbolTable) (left : Float) (t : Tokenizer) : Prop :=
  EndsTerm t.stream → ∀ v rest, (t.expressionTail table left).Leaves v rest → ∃ terms : TermList,
    t.stream = terms.spelling.map .ok ++ rest ∧ EndsExpression rest ∧
      terms.valueFrom? table left = some v

theorem primaryFrom_sound {table : SymbolTable} {u : Tokenizer} {token : Token} {v : Float}
    {rest : List (Except Fault Token)} (operand : PrimarySound table u)
    (inner : ExpressionSound table u) (accepted : (primaryFrom table token u).Leaves v rest) :
    ∃ tree : PrimaryTree, .ok token :: u.stream = tree.spelling.map .ok ++ rest ∧
      tree.value? table = some v := by
  unfold primaryFrom at accepted
  split at accepted
  next =>
    obtain ⟨value, first, accepted⟩ := Step.leaves_andThen.mp accepted
    obtain ⟨tree, spelled, _, stands⟩ := inner value _ ⟨first, rfl⟩
    obtain ⟨close, closing, accepted⟩ := leaves_next.mp accepted
    split at accepted
    next =>
      obtain ⟨same, left⟩ := Step.leaves_settle.mp accepted
      cases same
      refine ⟨.group tree, ?_, stands⟩
      rw [spelled, closing, left]
      simp [PrimaryTree.spelling]
    next => exact absurd accepted Step.not_leaves_reject
  next =>
    obtain ⟨value, first, accepted⟩ := Step.leaves_andThen.mp accepted
    obtain ⟨tree, spelled, stands⟩ := operand value _ ⟨first, rfl⟩
    obtain ⟨same, left⟩ := Step.leaves_settle.mp accepted
    cases same
    refine ⟨.negative tree, ?_, ?_⟩
    · rw [spelled, left]
      rfl
    · rw [PrimaryTree.value?, stands, Option.map_some]
  next =>
    obtain ⟨tree, spelled, stands⟩ := operand v rest accepted
    refine ⟨.positive tree, ?_, stands⟩
    rw [spelled]
    rfl
  next value =>
    obtain ⟨same, left⟩ := Step.leaves_settle.mp accepted
    cases same
    refine ⟨.number v, ?_, rfl⟩
    rw [left]
    rfl
  next name =>
    obtain ⟨known, left⟩ := Step.leaves_settle.mp accepted
    refine ⟨.name name, ?_, SymbolTable.lookup_eq_ok.mp known⟩
    rw [left]
    rfl
  next => exact absurd accepted Step.not_leaves_reject

theorem grammar_sound (table : SymbolTable) (t : Tokenizer) : PrimarySound table t ∧
    TermSound table t ∧ ExpressionSound table t ∧ (∀ left, TermTailSound table left t) ∧
      ∀ left, ExpressionTailSound table left t := by
  refine grammar_induction table ?primary ?term ?termTail ?expression ?expressionTail t
  case primary =>
    intro t ih v rest accepted
    obtain ⟨token, front, accepted⟩ := leaves_next.mp (t.primary_eq table ▸ accepted)
    obtain ⟨operand, inner⟩ := ih token (next_of_stream_ok front).1
    rw [front]
    exact primaryFrom_sound operand inner (Step.leaves_after.mp accepted)
  case term =>
    intro t operand tail v rest accepted
    obtain ⟨first, read, accepted⟩ := leaves_term.mp accepted
    obtain ⟨tree, spelled, stands⟩ := operand first _ ⟨read, rfl⟩
    obtain ⟨factors, more, ends, joined⟩ := tail first read v rest accepted
    refine ⟨.term tree factors, ?_, ends, ?_⟩
    · rw [spelled, more, TermTree.spelling, List.map_append, List.append_assoc]
    · rw [TermTree.value?, stands, Option.bind_some, joined]
  case termTail =>
    intro left t ih v rest accepted
    obtain ⟨token, front, _⟩ := leaves_next.mp (t.termTail_eq table left ▸ accepted)
    obtain ⟨operand, tail⟩ := ih token (next_of_stream_ok front).1
    cases sign : ProductOperator.ofToken? token with
    | none =>
      obtain ⟨rfl, same⟩ := (leaves_termTail_stop front sign).mp accepted
      refine ⟨.done, same, ?_, rfl⟩
      rw [← same, front]
      exact endsTerm_cons.mpr sign
    | some operator =>
      obtain ⟨right, value, read, joined, accepted⟩ :=
        (leaves_termTail_operator front sign).mp accepted
      obtain ⟨tree, spelled, stands⟩ := operand right _ ⟨read, rfl⟩
      obtain ⟨factors, more, ends, total⟩ := tail right value read v rest accepted
      refine ⟨.factor operator tree factors, ?_, ends, ?_⟩
      · rw [front, spelled, more, FactorList.spelling, ProductOperator.token_of_ofToken? sign]
        simp
      · rw [FactorList.valueFrom?, stands, Option.bind_some, joined, Option.bind_some, total]
  case expression =>
    intro t operand tail v rest accepted
    obtain ⟨first, read, accepted⟩ := leaves_expression.mp accepted
    obtain ⟨tree, spelled, past, stands⟩ := operand first _ ⟨read, rfl⟩
    obtain ⟨terms, more, ends, joined⟩ := tail first read past v rest accepted
    refine ⟨.expression tree terms, ?_, ends, ?_⟩
    · rw [spelled, more, ExpressionTree.spelling, List.map_append, List.append_assoc]
    · rw [ExpressionTree.value?, stands, Option.bind_some, joined]
  case expressionTail =>
    intro left t ih past v rest accepted
    obtain ⟨token, front, _⟩ := leaves_next.mp (t.expressionTail_eq table left ▸ accepted)
    obtain ⟨operand, tail⟩ := ih token (next_of_stream_ok front).1
    cases sign : SumOperator.ofToken? token with
    | none =>
      obtain ⟨rfl, same⟩ := (leaves_expressionTail_stop front sign).mp accepted
      refine ⟨.done, same, ?_, rfl⟩
      rw [front] at past
      rw [← same, front]
      exact endsExpression_cons.mpr ⟨sign, endsTerm_cons.mp past⟩
    | some operator =>
      obtain ⟨right, read, accepted⟩ := (leaves_expressionTail_operator front sign).mp accepted
      obtain ⟨tree, spelled, past, stands⟩ := operand right _ ⟨read, rfl⟩
      obtain ⟨terms, more, ends, total⟩ := tail right _ read past v rest accepted
      refine ⟨.term operator tree terms, ?_, ends, ?_⟩
      · rw [front, spelled, more, TermList.spelling, SumOperator.token_of_ofToken? sign]
        simp
      · rw [TermList.valueFrom?, stands, Option.bind_some, total]

theorem front_of_stream {t : Tokenizer} {token : Token} {more : List (Except Fault Token)}
    (h : t.stream = .ok token :: more) :
    t.stream = .ok token :: t.next.tokens.stream ∧ t.next.tokens.stream = more := by
  have left := (next_of_stream_ok h).2
  exact ⟨by rw [left, h], left⟩

end Tokenizer

theorem TermList.endsTerm (terms : TermList) {rest : List (Except Fault Token)}
    (ends : EndsExpression rest) : EndsTerm (terms.spelling.map .ok ++ rest) := by
  cases terms with
  | done => exact ends.endsTerm
  | term operator operand more => exact endsTerm_cons.mpr (ProductOperator.ofToken?_sum operator)

-- What follows the tokens of a tree is arbitrary, since the parts of a tree follow each other.
mutual

/-- What is derived from the grammar and has a value is accepted with this value. -/
theorem PrimaryTree.accepted (tree : PrimaryTree) {table : SymbolTable} {t : Tokenizer} {v : Float}
    {rest : List (Except Fault Token)} (spelled : t.stream = tree.spelling.map .ok ++ rest)
    (stands : tree.value? table = some v) : (t.primary table).Leaves v rest := by
  cases tree with
  | group inner =>
    simp only [PrimaryTree.spelling, List.map_cons, List.map_append, List.map_nil,
      List.cons_append, List.append_assoc, List.nil_append] at spelled
    obtain ⟨front, more⟩ := Tokenizer.front_of_stream spelled
    have ends : EndsExpression (.ok (.punct .rightParen) :: rest) := ⟨_, _, rfl, by decide⟩
    obtain ⟨value, left⟩ := inner.accepted more ends stands
    obtain ⟨closing, after⟩ := Tokenizer.front_of_stream left
    refine (Tokenizer.leaves_primary front).mpr (Step.leaves_andThen.mpr ⟨v, value, ?_⟩)
    exact Tokenizer.leaves_next.mpr ⟨_, closing, Step.leaves_settle.mpr ⟨rfl, after⟩⟩
  | negative operand =>
    simp only [PrimaryTree.spelling, List.map_cons, List.cons_append] at spelled
    obtain ⟨front, more⟩ := Tokenizer.front_of_stream spelled
    obtain ⟨w, inner, rfl⟩ := Option.map_eq_some_iff.mp stands
    obtain ⟨value, left⟩ := operand.accepted more inner
    refine (Tokenizer.leaves_primary front).mpr (Step.leaves_andThen.mpr ⟨w, value, ?_⟩)
    exact Step.leaves_settle.mpr ⟨rfl, left⟩
  | positive operand =>
    simp only [PrimaryTree.spelling, List.map_cons, List.cons_append] at spelled
    obtain ⟨front, more⟩ := Tokenizer.front_of_stream spelled
    exact (Tokenizer.leaves_primary front).mpr (operand.accepted more stands)
  | number value =>
    simp only [PrimaryTree.spelling, List.map_cons, List.cons_append] at spelled
    obtain ⟨front, more⟩ := Tokenizer.front_of_stream spelled
    cases stands
    exact (Tokenizer.leaves_primary front).mpr (Step.leaves_settle.mpr ⟨rfl, more⟩)
  | name name =>
    simp only [PrimaryTree.spelling, List.map_cons, List.cons_append] at spelled
    obtain ⟨front, more⟩ := Tokenizer.front_of_stream spelled
    have known := SymbolTable.lookup_eq_ok.mpr stands
    exact (Tokenizer.leaves_primary front).mpr (Step.leaves_settle.mpr ⟨known, more⟩)
termination_by structural tree

theorem TermTree.accepted (tree : TermTree) {table : SymbolTable} {t : Tokenizer} {v : Float}
    {rest : List (Except Fault Token)} (spelled : t.stream = tree.spelling.map .ok ++ rest)
    (ends : EndsTerm rest) (stands : tree.value? table = some v) :
    (t.term table).Leaves v rest := by
  obtain ⟨first, factors⟩ := tree
  obtain ⟨w, start, joined⟩ := Option.bind_eq_some_iff.mp stands
  rw [TermTree.spelling, List.map_append, List.append_assoc] at spelled
  obtain ⟨value, left⟩ := first.accepted spelled start
  exact Tokenizer.leaves_term.mpr ⟨w, value, factors.accepted left ends joined⟩
termination_by structural tree

theorem FactorList.accepted (factors : FactorList) {table : SymbolTable} {t : Tokenizer}
    {left v : Float} {rest : List (Except Fault Token)}
    (spelled : t.stream = factors.spelling.map .ok ++ rest) (ends : EndsTerm rest)
    (joined : factors.valueFrom? table left = some v) : (t.termTail table left).Leaves v rest := by
  cases factors with
  | done =>
    obtain ⟨token, more, rfl, other⟩ := ends
    obtain ⟨front, _⟩ := Tokenizer.front_of_stream spelled
    cases joined
    exact (Tokenizer.leaves_termTail_stop front (ProductOperator.ofToken?_eq_none.mpr other)).mpr
      ⟨rfl, spelled⟩
  | factor operator operand more =>
    simp only [FactorList.spelling, List.map_cons, List.map_append, List.cons_append,
      List.append_assoc] at spelled
    obtain ⟨front, further⟩ := Tokenizer.front_of_stream spelled
    obtain ⟨right, factor, joined⟩ := Option.bind_eq_some_iff.mp joined
    obtain ⟨total, both, joined⟩ := Option.bind_eq_some_iff.mp joined
    obtain ⟨value, left⟩ := operand.accepted further factor
    exact (Tokenizer.leaves_termTail_operator front operator.ofToken?_token).mpr
      ⟨right, total, value, both, more.accepted left ends joined⟩
termination_by structural factors

theorem ExpressionTree.accepted (tree : ExpressionTree) {table : SymbolTable} {t : Tokenizer}
    {v : Float} {rest : List (Except Fault Token)}
    (spelled : t.stream = tree.spelling.map .ok ++ rest) (ends : EndsExpression rest)
    (stands : tree.value? table = some v) : (t.expression table).Leaves v rest := by
  obtain ⟨first, terms⟩ := tree
  obtain ⟨w, start, joined⟩ := Option.bind_eq_some_iff.mp stands
  rw [ExpressionTree.spelling, List.map_append, List.append_assoc] at spelled
  obtain ⟨value, left⟩ := first.accepted spelled (terms.endsTerm ends) start
  exact Tokenizer.leaves_expression.mpr ⟨w, value, terms.accepted left ends joined⟩
termination_by structural tree

theorem TermList.accepted (terms : TermList) {table : SymbolTable} {t : Tokenizer} {left v : Float}
    {rest : List (Except Fault Token)} (spelled : t.stream = terms.spelling.map .ok ++ rest)
    (ends : EndsExpression rest) (joined : terms.valueFrom? table left = some v) :
    (t.expressionTail table left).Leaves v rest := by
  cases terms with
  | done =>
    obtain ⟨token, more, rfl, other⟩ := ends
    obtain ⟨front, _⟩ := Tokenizer.front_of_stream spelled
    have stops := (endsExpression_cons.mp ⟨token, more, rfl, other⟩).1
    cases joined
    exact (Tokenizer.leaves_expressionTail_stop front stops).mpr ⟨rfl, spelled⟩
  | term operator operand more =>
    simp only [TermList.spelling, List.map_cons, List.map_append, List.cons_append,
      List.append_assoc] at spelled
    obtain ⟨front, further⟩ := Tokenizer.front_of_stream spelled
    obtain ⟨right, term, joined⟩ := Option.bind_eq_some_iff.mp joined
    obtain ⟨value, left⟩ := operand.accepted further (more.endsTerm ends) term
    exact (Tokenizer.leaves_expressionTail_operator front operator.ofToken?_token).mpr
      ⟨right, value, more.accepted left ends joined⟩
termination_by structural terms

end

theorem SymbolTable.declare_eq_ok {table declared : SymbolTable} {name : String} {v : Float} :
    table.declare name v = .ok declared ↔
      table.isDeclared name = false ∧ ⟨table.entries ++ [⟨name, v⟩]⟩ = declared := by
  unfold declare
  cases table.isDeclared name <;> simp

namespace Tokenizer

variable {table : SymbolTable} {t : Tokenizer} {v : Float} {result : Evaluated}
  {rest : List (Except Fault Token)}

theorem leaves_term_iff : (t.term table).Leaves v rest ↔ ∃ tree : TermTree,
    t.stream = tree.spelling.map .ok ++ rest ∧ EndsTerm rest ∧ tree.value? table = some v :=
  ⟨(grammar_sound table t).2.1 v rest,
    fun ⟨tree, spelled, ends, stands⟩ => tree.accepted spelled ends stands⟩

theorem leaves_expression_iff : (t.expression table).Leaves v rest ↔ ∃ tree : ExpressionTree,
    t.stream = tree.spelling.map .ok ++ rest ∧ EndsExpression rest ∧ tree.value? table = some v :=
  ⟨(grammar_sound table t).2.2.1 v rest,
    fun ⟨tree, spelled, ends, stands⟩ => tree.accepted spelled ends stands⟩

end Tokenizer

end Calculator
