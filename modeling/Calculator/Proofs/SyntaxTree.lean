import Calculator.Evaluator

namespace Calculator

def SumOperator.token : SumOperator → Token
  | .plus => .punct .plus
  | .minus => .punct .minus

def ProductOperator.token : ProductOperator → Token
  | .times => .punct .star
  | .over => .punct .slash
  | .modulo => .punct .percent

@[simp] theorem SumOperator.ofToken?_token (operator : SumOperator) :
    ofToken? operator.token = some operator := by cases operator <;> rfl

@[simp] theorem ProductOperator.ofToken?_token (operator : ProductOperator) :
    ofToken? operator.token = some operator := by cases operator <;> rfl

@[simp] theorem ProductOperator.ofToken?_sum (operator : SumOperator) :
    ofToken? operator.token = none := by cases operator <;> rfl

theorem SumOperator.token_of_ofToken? {token : Token} {operator : SumOperator}
    (h : ofToken? token = some operator) : operator.token = token := by
  unfold ofToken? at h
  split at h <;> cases h <;> rfl

theorem ProductOperator.token_of_ofToken? {token : Token} {operator : ProductOperator}
    (h : ofToken? token = some operator) : operator.token = token := by
  unfold ofToken? at h
  split at h <;> cases h <;> rfl

/-- What two terms come to. -/
def SumOperator.value (operator : SumOperator) (left right : Float) : Float :=
  match operator with
  | .plus => left + right
  | .minus => left - right

theorem SumOperator.apply_eq_value : SumOperator.apply = SumOperator.value := by
  funext operator left right
  cases operator <;> rfl

/-- What two factors come to: no quotient and no remainder has a divisor that equals zero. -/
def ProductOperator.value? (operator : ProductOperator) (left right : Float) : Option Float :=
  match operator with
  | .times => some (left * right)
  | .over => if right == 0 then none else some (left / right)
  | .modulo => if right == 0 then none else some (remainder left right)

/-- The value of two factors, or the fault that they have none. -/
def ProductOperator.evaluate (operator : ProductOperator) (left right : Float) :
    Except Fault Float :=
  match operator.value? left right with
  | some value => .ok value
  | none => .error (.arithmetic .divisionByZero)

theorem ProductOperator.apply_eq_evaluate :
    ProductOperator.apply = ProductOperator.evaluate := by
  funext operator left right
  cases operator with
  | times => rfl
  | _ =>
    simp only [apply, evaluate, value?]
    split <;> rfl

theorem ProductOperator.toOption_evaluate (operator : ProductOperator) (left right : Float) :
    (operator.evaluate left right).toOption = operator.value? left right := by
  unfold evaluate
  cases operator.value? left right <;> rfl

theorem ProductOperator.apply_eq_ok {operator : ProductOperator} {left right value : Float} :
    operator.apply left right = .ok value ↔ operator.value? left right = some value := by
  rw [apply_eq_evaluate, ← toOption_evaluate]
  cases operator.evaluate left right <;> simp [Except.toOption]

mutual

/-- `primary := ( expression ) | - primary | + primary | Number | Identifier` -/
inductive PrimaryTree where
  | group (inner : ExpressionTree)
  | negative (operand : PrimaryTree)
  | positive (operand : PrimaryTree)
  | number (value : Float)
  | name (name : String)

/-- `term := primary {(*|/|%) primary}` -/
inductive TermTree where
  | term (first : PrimaryTree) (factors : FactorList)

/-- The part `{(*|/|%) primary}` of a term. -/
inductive FactorList where
  | done
  | factor (operator : ProductOperator) (operand : PrimaryTree) (more : FactorList)

/-- `expression := term {(+|-) term}` -/
inductive ExpressionTree where
  | expression (first : TermTree) (terms : TermList)

/-- The part `{(+|-) term}` of an expression. -/
inductive TermList where
  | done
  | term (operator : SumOperator) (operand : TermTree) (more : TermList)

end

/-- `statement := declaration | expression` and `declaration := let Identifier = expression` -/
inductive StatementTree where
  | expression (tree : ExpressionTree)
  | declaration (name : String) (tree : ExpressionTree)

mutual

/-- The tokens that a primary is derived to. -/
def PrimaryTree.spelling : PrimaryTree → List Token
  | .group inner => .punct .leftParen :: (inner.spelling ++ [.punct .rightParen])
  | .negative operand => .punct .minus :: operand.spelling
  | .positive operand => .punct .plus :: operand.spelling
  | .number value => [.number value]
  | .name name => [.identifier name]

def TermTree.spelling : TermTree → List Token
  | .term first factors => first.spelling ++ factors.spelling

def FactorList.spelling : FactorList → List Token
  | .done => []
  | .factor operator operand more => operator.token :: (operand.spelling ++ more.spelling)

def ExpressionTree.spelling : ExpressionTree → List Token
  | .expression first terms => first.spelling ++ terms.spelling

def TermList.spelling : TermList → List Token
  | .done => []
  | .term operator operand more => operator.token :: (operand.spelling ++ more.spelling)

end

def StatementTree.spelling : StatementTree → List Token
  | .expression tree => tree.spelling
  | .declaration name tree =>
    .keyword .declare :: .identifier name :: .punct .equal :: tree.spelling

mutual

/-- The value of a primary, if its names are declared and it divides by nothing that equals
zero. -/
def PrimaryTree.value? (table : SymbolTable) : PrimaryTree → Option Float
  | .group inner => inner.value? table
  | .negative operand => (operand.value? table).map fun value => -value
  | .positive operand => operand.value? table
  | .number value => some value
  | .name name => table.value? name

def TermTree.value? (table : SymbolTable) : TermTree → Option Float
  | .term first factors => (first.value? table).bind fun left => factors.valueFrom? table left

/-- The value of a term whose first factors have the value `left`. -/
def FactorList.valueFrom? (table : SymbolTable) (left : Float) : FactorList → Option Float
  | .done => some left
  | .factor operator operand more =>
    (operand.value? table).bind fun right =>
      (operator.value? left right).bind fun value => more.valueFrom? table value

def ExpressionTree.value? (table : SymbolTable) : ExpressionTree → Option Float
  | .expression first terms => (first.value? table).bind fun left => terms.valueFrom? table left

/-- The value of an expression whose first terms have the value `left`. -/
def TermList.valueFrom? (table : SymbolTable) (left : Float) : TermList → Option Float
  | .done => some left
  | .term operator operand more =>
    (operand.value? table).bind fun right => more.valueFrom? table (operator.value left right)

end

/-- The value of a statement, and the table behind it. A name is declared once, and its own value
cannot refer to it. -/
def StatementTree.result? (table : SymbolTable) : StatementTree → Option Evaluated
  | .expression tree => (tree.value? table).map fun value => ⟨value, table⟩
  | .declaration name tree =>
    if table.isDeclared name then none
    else (tree.value? table).map fun value => ⟨value, ⟨table.entries ++ [⟨name, value⟩]⟩⟩

/-- No operator between factors comes next. -/
def NoFactorAhead (rest : List Token) : Prop :=
  ∀ token ∈ rest.head?, ProductOperator.ofToken? token = none

/-- No operator between terms comes next. -/
def NoTermAhead (rest : List Token) : Prop :=
  ∀ token ∈ rest.head?, SumOperator.ofToken? token = none

theorem NoFactorAhead.ne {rest more : List Token} {operator : ProductOperator}
    (h : NoFactorAhead rest) : rest ≠ operator.token :: more := by
  rintro rfl
  have refused := h operator.token rfl
  rw [operator.ofToken?_token] at refused
  cases refused

theorem NoTermAhead.ne {rest more : List Token} {operator : SumOperator}
    (h : NoTermAhead rest) : rest ≠ operator.token :: more := by
  rintro rfl
  have refused := h operator.token rfl
  rw [operator.ofToken?_token] at refused
  cases refused

theorem noFactorAhead_rightParen (rest : List Token) :
    NoFactorAhead (.punct .rightParen :: rest) := by
  rintro token ⟨⟩
  rfl

theorem noTermAhead_rightParen (rest : List Token) : NoTermAhead (.punct .rightParen :: rest) := by
  rintro token ⟨⟩
  rfl

theorem ProductOperator.token_inj {operator other : ProductOperator}
    (h : operator.token = other.token) : operator = other := by
  cases operator <;> cases other <;> first | rfl | cases h

theorem SumOperator.token_inj {operator other : SumOperator}
    (h : operator.token = other.token) : operator = other := by
  cases operator <;> cases other <;> first | rfl | cases h

/-- The terms of an expression go on with an operator between terms, never with one between
factors. -/
theorem TermList.noFactorAhead (terms : TermList) {rest : List Token} (h : NoFactorAhead rest) :
    NoFactorAhead (terms.spelling ++ rest) := by
  cases terms with
  | done => exact h
  | term operator operand more =>
    intro token first
    cases Option.some.inj first
    exact ProductOperator.ofToken?_sum operator

mutual

/-- A text determines the primary that it starts with. -/
theorem PrimaryTree.unique (p q : PrimaryTree) {X Y : List Token}
    (h : p.spelling ++ X = q.spelling ++ Y) : p = q ∧ X = Y := by
  cases p with
  | group inner =>
    cases q with
    | group other =>
      simp only [PrimaryTree.spelling, List.cons_append, List.append_assoc, List.cons.injEq,
        true_and] at h
      obtain ⟨rfl, tail⟩ := inner.unique other (noFactorAhead_rightParen X)
        (noTermAhead_rightParen X) (noFactorAhead_rightParen Y) (noTermAhead_rightParen Y) h
      exact ⟨rfl, (List.cons.inj tail).2⟩
    | _ => simp [PrimaryTree.spelling] at h
  | negative operand =>
    cases q with
    | negative other =>
      simp only [PrimaryTree.spelling, List.cons_append, List.cons.injEq, true_and] at h
      obtain ⟨rfl, tail⟩ := operand.unique other h
      exact ⟨rfl, tail⟩
    | _ => simp [PrimaryTree.spelling] at h
  | positive operand =>
    cases q with
    | positive other =>
      simp only [PrimaryTree.spelling, List.cons_append, List.cons.injEq, true_and] at h
      obtain ⟨rfl, tail⟩ := operand.unique other h
      exact ⟨rfl, tail⟩
    | _ => simp [PrimaryTree.spelling] at h
  | number value =>
    cases q with
    | number other => simpa [PrimaryTree.spelling] using h
    | _ => simp [PrimaryTree.spelling] at h
  | name name =>
    cases q with
    | name other => simpa [PrimaryTree.spelling] using h
    | _ => simp [PrimaryTree.spelling] at h
termination_by structural p

theorem TermTree.unique (p q : TermTree) {X Y : List Token} (hX : NoFactorAhead X)
    (hY : NoFactorAhead Y) (h : p.spelling ++ X = q.spelling ++ Y) : p = q ∧ X = Y := by
  obtain ⟨first, factors⟩ := p
  obtain ⟨first', factors'⟩ := q
  simp only [TermTree.spelling, List.append_assoc] at h
  obtain ⟨rfl, tail⟩ := first.unique first' h
  obtain ⟨rfl, same⟩ := factors.unique factors' hX hY tail
  exact ⟨rfl, same⟩
termination_by structural p

theorem FactorList.unique (p q : FactorList) {X Y : List Token} (hX : NoFactorAhead X)
    (hY : NoFactorAhead Y) (h : p.spelling ++ X = q.spelling ++ Y) : p = q ∧ X = Y := by
  cases p with
  | done =>
    cases q with
    | done => exact ⟨rfl, h⟩
    | factor operator operand more => exact absurd h hX.ne
  | factor operator operand more =>
    cases q with
    | done => exact absurd h.symm hY.ne
    | factor operator' operand' more' =>
      simp only [FactorList.spelling, List.cons_append, List.append_assoc, List.cons.injEq] at h
      obtain ⟨sign, tail⟩ := h
      cases ProductOperator.token_inj sign
      obtain ⟨rfl, left⟩ := operand.unique operand' tail
      obtain ⟨rfl, same⟩ := more.unique more' hX hY left
      exact ⟨rfl, same⟩
termination_by structural p

theorem ExpressionTree.unique (p q : ExpressionTree) {X Y : List Token} (hX : NoFactorAhead X)
    (hX' : NoTermAhead X) (hY : NoFactorAhead Y) (hY' : NoTermAhead Y)
    (h : p.spelling ++ X = q.spelling ++ Y) : p = q ∧ X = Y := by
  obtain ⟨first, terms⟩ := p
  obtain ⟨first', terms'⟩ := q
  simp only [ExpressionTree.spelling, List.append_assoc] at h
  obtain ⟨rfl, tail⟩ := first.unique first' (terms.noFactorAhead hX) (terms'.noFactorAhead hY) h
  obtain ⟨rfl, same⟩ := terms.unique terms' hX hX' hY hY' tail
  exact ⟨rfl, same⟩
termination_by structural p

theorem TermList.unique (p q : TermList) {X Y : List Token} (hX : NoFactorAhead X)
    (hX' : NoTermAhead X) (hY : NoFactorAhead Y) (hY' : NoTermAhead Y)
    (h : p.spelling ++ X = q.spelling ++ Y) : p = q ∧ X = Y := by
  cases p with
  | done =>
    cases q with
    | done => exact ⟨rfl, h⟩
    | term operator operand more => exact absurd h hX'.ne
  | term operator operand more =>
    cases q with
    | done => exact absurd h.symm hY'.ne
    | term operator' operand' more' =>
      simp only [TermList.spelling, List.cons_append, List.append_assoc, List.cons.injEq] at h
      obtain ⟨sign, tail⟩ := h
      cases SumOperator.token_inj sign
      obtain ⟨rfl, left⟩ := operand.unique operand' (more.noFactorAhead hX)
        (more'.noFactorAhead hY) tail
      obtain ⟨rfl, same⟩ := more.unique more' hX hX' hY hY' left
      exact ⟨rfl, same⟩
termination_by structural p

end

theorem noFactorAhead_nil : NoFactorAhead [] := by rintro token ⟨⟩

theorem noTermAhead_nil : NoTermAhead [] := by rintro token ⟨⟩

/-- No expression starts with the word of a declaration. -/
theorem ExpressionTree.head (tree : ExpressionTree) :
    ∃ token more, tree.spelling = token :: more ∧ token ≠ .keyword .declare := by
  obtain ⟨⟨first, factors⟩, terms⟩ := tree
  have start : ∃ token more, first.spelling = token :: more ∧ token ≠ .keyword .declare := by
    cases first with
    | group => exact ⟨_, _, rfl, by simp⟩
    | negative => exact ⟨_, _, rfl, by simp⟩
    | positive => exact ⟨_, _, rfl, by simp⟩
    | number => exact ⟨_, _, rfl, by simp⟩
    | name => exact ⟨_, _, rfl, by simp⟩
  obtain ⟨token, more, spelled, other⟩ := start
  refine ⟨token, more ++ factors.spelling ++ terms.spelling, ?_, other⟩
  simp [ExpressionTree.spelling, TermTree.spelling, spelled]

end Calculator
