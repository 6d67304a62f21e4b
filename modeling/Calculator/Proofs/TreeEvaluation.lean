import Calculator.Proofs.CleanScripts

namespace Calculator

variable {α β : Type}

mutual

/-- The value of a primary, or the first fault on the way to it. Operands come from left to right,
and each operation comes right behind its operands. -/
def PrimaryTree.evaluate (table : SymbolTable) : PrimaryTree → Except Fault Float
  | .group inner => inner.evaluate table
  | .negative operand => (operand.evaluate table).map fun value => -value
  | .positive operand => operand.evaluate table
  | .number value => .ok value
  | .name name => table.lookup name

def TermTree.evaluate (table : SymbolTable) : TermTree → Except Fault Float
  | .term first factors =>
    (first.evaluate table).bind fun left => factors.evaluateFrom table left

/-- The value of a term whose first factors have the value `left`. -/
def FactorList.evaluateFrom (table : SymbolTable) (left : Float) : FactorList → Except Fault Float
  | .done => .ok left
  | .factor operator operand more =>
    (operand.evaluate table).bind fun right =>
      (operator.evaluate left right).bind fun value => more.evaluateFrom table value

def ExpressionTree.evaluate (table : SymbolTable) : ExpressionTree → Except Fault Float
  | .expression first terms =>
    (first.evaluate table).bind fun left => terms.evaluateFrom table left

/-- The value of an expression whose first terms have the value `left`. -/
def TermList.evaluateFrom (table : SymbolTable) (left : Float) : TermList → Except Fault Float
  | .done => .ok left
  | .term operator operand more =>
    (operand.evaluate table).bind fun right =>
      more.evaluateFrom table (operator.value left right)

end

/-- What a statement comes to. Whether a name is free is asked behind all the rest. -/
def StatementTree.evaluate (table : SymbolTable) : StatementTree → Except Fault Evaluated
  | .expression tree => (tree.evaluate table).map fun value => ⟨value, table⟩
  | .declaration name tree =>
    (tree.evaluate table).bind fun value =>
      (table.declare name value).map fun table => ⟨value, table⟩

section Value

variable (table : SymbolTable)

theorem toOption_bind (result : Except Fault α) (f : α → Except Fault β) :
    (result.bind f).toOption = result.toOption.bind fun a => (f a).toOption := by
  cases result <;> rfl

theorem toOption_map (result : Except Fault α) (f : α → β) :
    (result.map f).toOption = result.toOption.map f := by
  cases result <;> rfl

theorem toOption_lookup (name : String) : (table.lookup name).toOption = table.value? name := by
  unfold SymbolTable.lookup
  cases table.value? name <;> rfl

mutual

/-- A tree is evaluated to the value that it has, and to a fault if it has none. -/
theorem PrimaryTree.toOption_evaluate (tree : PrimaryTree) :
    (tree.evaluate table).toOption = tree.value? table := by
  cases tree with
  | group inner => exact inner.toOption_evaluate
  | negative operand =>
    rw [PrimaryTree.evaluate, PrimaryTree.value?, toOption_map, operand.toOption_evaluate]
  | positive operand => exact operand.toOption_evaluate
  | number value => rfl
  | name name => exact toOption_lookup table name
termination_by structural tree

theorem TermTree.toOption_evaluate (tree : TermTree) :
    (tree.evaluate table).toOption = tree.value? table := by
  obtain ⟨first, factors⟩ := tree
  rw [TermTree.evaluate, TermTree.value?, toOption_bind, first.toOption_evaluate]
  exact congrArg _ (funext fun left => factors.toOption_evaluateFrom left)
termination_by structural tree

theorem FactorList.toOption_evaluateFrom (factors : FactorList) (left : Float) :
    (factors.evaluateFrom table left).toOption = factors.valueFrom? table left := by
  cases factors with
  | done => rfl
  | factor operator operand more =>
    rw [FactorList.evaluateFrom, FactorList.valueFrom?, toOption_bind, operand.toOption_evaluate]
    refine congrArg _ (funext fun right => ?_)
    rw [toOption_bind, operator.toOption_evaluate]
    exact congrArg _ (funext fun value => more.toOption_evaluateFrom value)
termination_by structural factors

theorem ExpressionTree.toOption_evaluate (tree : ExpressionTree) :
    (tree.evaluate table).toOption = tree.value? table := by
  obtain ⟨first, terms⟩ := tree
  rw [ExpressionTree.evaluate, ExpressionTree.value?, toOption_bind, first.toOption_evaluate]
  exact congrArg _ (funext fun left => terms.toOption_evaluateFrom left)
termination_by structural tree

theorem TermList.toOption_evaluateFrom (terms : TermList) (left : Float) :
    (terms.evaluateFrom table left).toOption = terms.valueFrom? table left := by
  cases terms with
  | done => rfl
  | term operator operand more =>
    rw [TermList.evaluateFrom, TermList.valueFrom?, toOption_bind, operand.toOption_evaluate]
    exact congrArg _ (funext fun right => more.toOption_evaluateFrom _)
termination_by structural terms

end

theorem StatementTree.toOption_evaluate (tree : StatementTree) :
    (tree.evaluate table).toOption = tree.result? table := by
  cases tree with
  | expression tree =>
    rw [StatementTree.evaluate, toOption_map, tree.toOption_evaluate, StatementTree.result?]
  | declaration name tree =>
    rw [StatementTree.evaluate, toOption_bind, tree.toOption_evaluate, StatementTree.result?]
    unfold SymbolTable.declare
    split
    next => cases tree.value? table <;> rfl
    next => cases tree.value? table <;> rfl

end Value

/-- A result that fails, if it does, because a name is not known or taken, or because an operation
has no value. -/
def Operational (result : Except Fault α) : Prop :=
  ∀ fault, result = .error fault → fault.kind = .name ∨ fault.kind = .arithmetic

section Operational

variable {table : SymbolTable}

theorem operational_ok (a : α) : Operational (.ok a) := by
  intro fault h
  cases h

theorem operational_bind {result : Except Fault α} {f : α → Except Fault β}
    (first : Operational result) (second : ∀ a, Operational (f a)) :
    Operational (result.bind f) := by
  cases result with
  | ok a => exact second a
  | error fault =>
    intro other h
    cases h
    exact first fault rfl

theorem operational_map {result : Except Fault α} (first : Operational result) (f : α → β) :
    Operational (result.map f) :=
  operational_bind first fun a => operational_ok (f a)

theorem operational_lookup (table : SymbolTable) (name : String) :
    Operational (table.lookup name) := by
  intro fault h
  rw [lookup_error h]
  exact Or.inl rfl

theorem operational_declare (table : SymbolTable) (name : String) (value : Float) :
    Operational (table.declare name value) := by
  intro fault h
  rw [declare_error h]
  exact Or.inl rfl

theorem operational_operator (operator : ProductOperator) (left right : Float) :
    Operational (operator.evaluate left right) := by
  intro fault h
  rw [← ProductOperator.apply_eq_evaluate] at h
  rw [apply_error h]
  exact Or.inr rfl

mutual

theorem PrimaryTree.operational (tree : PrimaryTree) : Operational (tree.evaluate table) := by
  cases tree with
  | group inner => exact inner.operational
  | negative operand => exact operational_map operand.operational _
  | positive operand => exact operand.operational
  | number value => exact operational_ok value
  | name name => exact operational_lookup table name
termination_by structural tree

theorem TermTree.operational (tree : TermTree) : Operational (tree.evaluate table) := by
  obtain ⟨first, factors⟩ := tree
  exact operational_bind first.operational fun left => factors.operational left
termination_by structural tree

theorem FactorList.operational (factors : FactorList) (left : Float) :
    Operational (factors.evaluateFrom table left) := by
  cases factors with
  | done => exact operational_ok left
  | factor operator operand more =>
    refine operational_bind operand.operational fun right => ?_
    exact operational_bind (operational_operator operator left right) fun value =>
      more.operational value
termination_by structural factors

theorem ExpressionTree.operational (tree : ExpressionTree) :
    Operational (tree.evaluate table) := by
  obtain ⟨first, terms⟩ := tree
  exact operational_bind first.operational fun left => terms.operational left
termination_by structural tree

theorem TermList.operational (terms : TermList) (left : Float) :
    Operational (terms.evaluateFrom table left) := by
  cases terms with
  | done => exact operational_ok left
  | term operator operand more =>
    exact operational_bind operand.operational fun right => more.operational _
termination_by structural terms

end

theorem StatementTree.operational (tree : StatementTree) : Operational (tree.evaluate table) := by
  cases tree with
  | expression tree => exact operational_map tree.operational _
  | declaration name tree =>
    refine operational_bind tree.operational fun value => ?_
    exact operational_map (operational_declare table name value) _

end Operational

end Calculator
