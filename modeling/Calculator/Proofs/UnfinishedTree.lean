import Calculator.Proofs.TreeEvaluation

namespace Calculator

mutual

/-- What there is of a primary that is not complete. What comes next is not part of it. -/
inductive PrimaryPart where
  | nothing
  | group (inner : ExpressionPart)
  | unclosed (inner : ExpressionTree)
  | negative (operand : PrimaryPart)
  | positive (operand : PrimaryPart)

/-- What there is of a term, which ends in a factor or where the token behind a factor is
missing. -/
inductive TermPart where
  | first (operand : PrimaryPart)
  | factors (first : PrimaryTree) (factors : FactorPart)

inductive FactorPart where
  | nothing
  | operand (operator : ProductOperator) (operand : PrimaryPart)
  | factor (operator : ProductOperator) (operand : PrimaryTree) (more : FactorPart)

/-- What there is of an expression, which ends in a term. -/
inductive ExpressionPart where
  | first (operand : TermPart)
  | terms (first : TermTree) (terms : SummandPart)

inductive SummandPart where
  | operand (operator : SumOperator) (operand : TermPart)
  | term (operator : SumOperator) (operand : TermTree) (more : SummandPart)

end

/-- What there is of a statement. A declaration can lack its name or its sign. -/
inductive StatementPart where
  | expression (part : ExpressionPart)
  | nameless
  | signless (name : String)
  | declaration (name : String) (part : ExpressionPart)

mutual

/-- The tokens of which a part is made. -/
def PrimaryPart.spelling : PrimaryPart → List Token
  | .nothing => []
  | .group inner => .punct .leftParen :: inner.spelling
  | .unclosed inner => .punct .leftParen :: inner.spelling
  | .negative operand => .punct .minus :: operand.spelling
  | .positive operand => .punct .plus :: operand.spelling

def TermPart.spelling : TermPart → List Token
  | .first operand => operand.spelling
  | .factors first factors => first.spelling ++ factors.spelling

def FactorPart.spelling : FactorPart → List Token
  | .nothing => []
  | .operand operator operand => operator.token :: operand.spelling
  | .factor operator operand more => operator.token :: (operand.spelling ++ more.spelling)

def ExpressionPart.spelling : ExpressionPart → List Token
  | .first operand => operand.spelling
  | .terms first terms => first.spelling ++ terms.spelling

def SummandPart.spelling : SummandPart → List Token
  | .operand operator operand => operator.token :: operand.spelling
  | .term operator operand more => operator.token :: (operand.spelling ++ more.spelling)

end

def StatementPart.spelling : StatementPart → List Token
  | .expression part => part.spelling
  | .nameless => [.keyword .declare]
  | .signless name => [.keyword .declare, .identifier name]
  | .declaration name part =>
    .keyword .declare :: .identifier name :: .punct .equal :: part.spelling

mutual

/-- Evaluates the operations of a part that have all their operands, in the order in which a whole
tree is evaluated. -/
def PrimaryPart.attempt (table : SymbolTable) : PrimaryPart → Except Fault Unit
  | .nothing => .ok ()
  | .group inner => inner.attempt table
  | .unclosed inner => (inner.evaluate table).map fun _ => ()
  | .negative operand => operand.attempt table
  | .positive operand => operand.attempt table

def TermPart.attempt (table : SymbolTable) : TermPart → Except Fault Unit
  | .first operand => operand.attempt table
  | .factors first factors =>
    (first.evaluate table).bind fun left => factors.attemptFrom table left

def FactorPart.attemptFrom (table : SymbolTable) (left : Float) : FactorPart → Except Fault Unit
  | .nothing => .ok ()
  | .operand _ operand => operand.attempt table
  | .factor operator operand more =>
    (operand.evaluate table).bind fun right =>
      (operator.evaluate left right).bind fun value => more.attemptFrom table value

def ExpressionPart.attempt (table : SymbolTable) : ExpressionPart → Except Fault Unit
  | .first operand => operand.attempt table
  | .terms first terms => (first.evaluate table).bind fun left => terms.attemptFrom table left

def SummandPart.attemptFrom (table : SymbolTable) (left : Float) :
    SummandPart → Except Fault Unit
  | .operand _ operand => operand.attempt table
  | .term operator operand more =>
    (operand.evaluate table).bind fun right =>
      more.attemptFrom table (operator.value left right)

end

/-- Whether a name is free is not asked before there is a whole expression. -/
def StatementPart.attempt (table : SymbolTable) : StatementPart → Except Fault Unit
  | .expression part => part.attempt table
  | .nameless => .ok ()
  | .signless _ => .ok ()
  | .declaration _ part => part.attempt table

mutual

/-- The part cannot go on with the token. -/
def PrimaryPart.Refuses (token : Token) : PrimaryPart → Prop
  | .nothing => ∀ tree : PrimaryTree, tree.spelling.head? ≠ some token
  | .group inner => inner.Refuses token
  | .unclosed _ => token ≠ .punct .rightParen ∧ SumOperator.ofToken? token = none ∧
    ProductOperator.ofToken? token = none
  | .negative operand => operand.Refuses token
  | .positive operand => operand.Refuses token

def TermPart.Refuses (token : Token) : TermPart → Prop
  | .first operand => operand.Refuses token
  | .factors _ factors => factors.Refuses token

def FactorPart.Refuses (token : Token) : FactorPart → Prop
  | .nothing => False
  | .operand _ operand => operand.Refuses token
  | .factor _ _ more => more.Refuses token

def ExpressionPart.Refuses (token : Token) : ExpressionPart → Prop
  | .first operand => operand.Refuses token
  | .terms _ terms => terms.Refuses token

def SummandPart.Refuses (token : Token) : SummandPart → Prop
  | .operand _ operand => operand.Refuses token
  | .term _ _ more => more.Refuses token

end

/-- No expression starts with the word of a declaration, but a statement does. -/
def StatementPart.Refuses (token : Token) : StatementPart → Prop
  | .expression part => part.Refuses token ∧ part.spelling ++ [token] ≠ [.keyword .declare]
  | .nameless => ∀ name, token ≠ .identifier name
  | .signless _ => token ≠ .punct .equal
  | .declaration _ part => part.Refuses token

section Operational

variable {table : SymbolTable}

mutual

theorem PrimaryPart.operational (part : PrimaryPart) : Operational (part.attempt table) := by
  cases part with
  | nothing => exact operational_ok ()
  | group inner => exact inner.operational
  | unclosed inner => exact operational_map inner.operational _
  | negative operand => exact operand.operational
  | positive operand => exact operand.operational
termination_by structural part

theorem TermPart.operational (part : TermPart) : Operational (part.attempt table) := by
  cases part with
  | first operand => exact operand.operational
  | factors first factors =>
    exact operational_bind first.operational fun left => factors.operational left
termination_by structural part

theorem FactorPart.operational (part : FactorPart) (left : Float) :
    Operational (part.attemptFrom table left) := by
  cases part with
  | nothing => exact operational_ok ()
  | operand operator operand => exact operand.operational
  | factor operator operand more =>
    refine operational_bind operand.operational fun right => ?_
    exact operational_bind (operational_operator operator left right) fun value =>
      more.operational value
termination_by structural part

theorem ExpressionPart.operational (part : ExpressionPart) :
    Operational (part.attempt table) := by
  cases part with
  | first operand => exact operand.operational
  | terms first terms =>
    exact operational_bind first.operational fun left => terms.operational left
termination_by structural part

theorem SummandPart.operational (part : SummandPart) (left : Float) :
    Operational (part.attemptFrom table left) := by
  cases part with
  | operand operator operand => exact operand.operational
  | term operator operand more =>
    exact operational_bind operand.operational fun right => more.operational _
termination_by structural part

end

/-- A part fails only as an operation fails. -/
theorem StatementPart.operational (part : StatementPart) : Operational (part.attempt table) := by
  cases part with
  | expression part => exact part.operational
  | nameless => exact operational_ok ()
  | signless name => exact operational_ok ()
  | declaration name part => exact part.operational

end Operational

mutual

/-- A part is the beginning of a tree. -/
theorem PrimaryPart.exists_tree (part : PrimaryPart) :
    ∃ tree : PrimaryTree, part.spelling <+: tree.spelling := by
  cases part with
  | nothing => exact ⟨.number 0, List.nil_prefix⟩
  | group inner =>
    obtain ⟨tree, begins⟩ := inner.exists_tree
    refine ⟨.group tree, ?_⟩
    rw [PrimaryPart.spelling, PrimaryTree.spelling, List.prefix_cons_inj]
    exact begins.trans (List.prefix_append _ _)
  | unclosed inner =>
    refine ⟨.group inner, ?_⟩
    rw [PrimaryPart.spelling, PrimaryTree.spelling, List.prefix_cons_inj]
    exact List.prefix_append _ _
  | negative operand =>
    obtain ⟨tree, begins⟩ := operand.exists_tree
    exact ⟨.negative tree, (List.prefix_cons_inj _).mpr begins⟩
  | positive operand =>
    obtain ⟨tree, begins⟩ := operand.exists_tree
    exact ⟨.positive tree, (List.prefix_cons_inj _).mpr begins⟩
termination_by structural part

theorem TermPart.exists_tree (part : TermPart) :
    ∃ tree : TermTree, part.spelling <+: tree.spelling := by
  cases part with
  | first operand =>
    obtain ⟨tree, begins⟩ := operand.exists_tree
    exact ⟨.term tree .done, begins.trans (List.prefix_append _ _)⟩
  | factors first factors =>
    obtain ⟨more, begins⟩ := factors.exists_list
    exact ⟨.term first more, (List.prefix_append_right_inj _).mpr begins⟩
termination_by structural part

theorem FactorPart.exists_list (part : FactorPart) :
    ∃ factors : FactorList, part.spelling <+: factors.spelling := by
  cases part with
  | nothing => exact ⟨.done, List.nil_prefix⟩
  | operand operator operand =>
    obtain ⟨tree, begins⟩ := operand.exists_tree
    refine ⟨.factor operator tree .done, (List.prefix_cons_inj _).mpr ?_⟩
    exact begins.trans (List.prefix_append _ _)
  | factor operator operand more =>
    obtain ⟨factors, begins⟩ := more.exists_list
    refine ⟨.factor operator operand factors, (List.prefix_cons_inj _).mpr ?_⟩
    exact (List.prefix_append_right_inj _).mpr begins
termination_by structural part

theorem ExpressionPart.exists_tree (part : ExpressionPart) :
    ∃ tree : ExpressionTree, part.spelling <+: tree.spelling := by
  cases part with
  | first operand =>
    obtain ⟨tree, begins⟩ := operand.exists_tree
    exact ⟨.expression tree .done, begins.trans (List.prefix_append _ _)⟩
  | terms first terms =>
    obtain ⟨more, begins⟩ := terms.exists_list
    exact ⟨.expression first more, (List.prefix_append_right_inj _).mpr begins⟩
termination_by structural part

theorem SummandPart.exists_list (part : SummandPart) :
    ∃ terms : TermList, part.spelling <+: terms.spelling := by
  cases part with
  | operand operator operand =>
    obtain ⟨tree, begins⟩ := operand.exists_tree
    refine ⟨.term operator tree .done, (List.prefix_cons_inj _).mpr ?_⟩
    exact begins.trans (List.prefix_append _ _)
  | term operator operand more =>
    obtain ⟨terms, begins⟩ := more.exists_list
    refine ⟨.term operator operand terms, (List.prefix_cons_inj _).mpr ?_⟩
    exact (List.prefix_append_right_inj _).mpr begins
termination_by structural part

end

theorem StatementPart.exists_tree (part : StatementPart) :
    ∃ tree : StatementTree, part.spelling <+: tree.spelling := by
  cases part with
  | expression part =>
    obtain ⟨tree, begins⟩ := part.exists_tree
    exact ⟨.expression tree, begins⟩
  | nameless =>
    exact ⟨.declaration "" (.expression (.term (.number 0) .done) .done), List.prefix_append [_] _⟩
  | signless name =>
    refine ⟨.declaration name (.expression (.term (.number 0) .done) .done), ?_⟩
    exact List.prefix_append [_, _] _
  | declaration name part =>
    obtain ⟨tree, begins⟩ := part.exists_tree
    exact ⟨.declaration name tree, (List.prefix_append_right_inj [_, _, _]).mpr begins⟩

end Calculator
