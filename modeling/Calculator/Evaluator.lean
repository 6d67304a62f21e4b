import Calculator.Operator
import Calculator.Within

namespace Calculator

/-- What a statement comes to: its value, and the table with what it declared. -/
structure Evaluated where
  value : Float
  table : SymbolTable

namespace Within

variable {n : Nat}

mutual

/-- `primary := ( expression ) | - primary | + primary | Number | Identifier` -/
def primary (table : SymbolTable) (t : Tokenizer) : Within t.size Float :=
  (next t).bind (Nat.le_refl _) fun token rest less =>
    note (.operand token) <|
      match token with
      | .punct .leftParen =>
        (expression table rest).bind (Nat.le_of_lt less) fun value rest₁ less₁ =>
          (next rest₁).bind (by omega) fun token rest₂ less₂ =>
            match token with
            | .punct .rightParen => done value rest₂ (by omega)
            | token => reject token .closingExpected rest₂ (by omega)
      | .punct .minus =>
        (primary table rest).bind (Nat.le_of_lt less) fun value rest₁ less₁ =>
          done (-value) rest₁ (by omega)
      | .punct .plus => (primary table rest).weaken (Nat.le_of_lt less)
      | .number value => done value rest less
      | .identifier name => settle (table.lookup name) rest less
      | token => reject token .primaryExpected rest less
termination_by (t.size, 0)

/-- `term := primary {(*|/|%) primary}` -/
def term (table : SymbolTable) (t : Tokenizer) : Within t.size Float :=
  (primary table t).bind (Nat.le_refl _) fun left rest less =>
    (termTail table left rest).weaken less
termination_by (t.size, 1)

/-- Joins the factors that follow to the value of those before. -/
def termTail (table : SymbolTable) (left : Float) (t : Tokenizer) : Within (t.size + 1) Float :=
  (next t).bind (Nat.le_succ _) fun token rest less =>
    match ProductOperator.ofToken? token with
    | some operator =>
      (primary table rest).bind (by omega) fun right rest₁ less₁ =>
        (settle (operator.apply left right) rest₁ less₁).bind (by omega) fun value rest₂ less₂ =>
          (termTail table value rest₂).weaken (by omega)
    | none =>
      giveBack token rest less fun rest₁ le => done left rest₁ (Nat.lt_succ_of_le le)
termination_by (t.size, 0)

/-- `expression := term {(+|-) term}` -/
def expression (table : SymbolTable) (t : Tokenizer) : Within t.size Float :=
  (term table t).bind (Nat.le_refl _) fun left rest less =>
    (expressionTail table left rest).weaken less
termination_by (t.size, 2)

/-- Joins the terms that follow to the value of those before. -/
def expressionTail (table : SymbolTable) (left : Float) (t : Tokenizer) :
    Within (t.size + 1) Float :=
  (next t).bind (Nat.le_succ _) fun token rest less =>
    match SumOperator.ofToken? token with
    | some operator =>
      (term table rest).bind (by omega) fun right rest₁ less₁ =>
        (expressionTail table (operator.apply left right) rest₁).weaken (by omega)
    | none =>
      giveBack token rest less fun rest₁ le => done left rest₁ (Nat.lt_succ_of_le le)
termination_by (t.size, 0)

end

/-- `declaration := let Identifier = expression`, from behind its first word on. -/
def declaration (table : SymbolTable) (t : Tokenizer) : Within t.size Evaluated :=
  (next t).bind (Nat.le_refl _) fun token rest less =>
    match token with
    | .identifier name =>
      (next rest).bind (Nat.le_of_lt less) fun token rest₁ less₁ =>
        match token with
        | .punct .equal =>
          (expression table rest₁).bind (by omega) fun value rest₂ less₂ =>
            (settle (table.declare name value) rest₂ less₂).bind (by omega)
              fun table rest₃ less₃ =>
                note (.declared name value) (done ⟨value, table⟩ rest₃ (by omega))
        | token => reject token .equalExpected rest₁ (by omega)
    | token => reject token .nameExpected rest less

/-- `statement := declaration | expression` -/
def statement (table : SymbolTable) (t : Tokenizer) : Within t.size Evaluated :=
  (next t).bind (Nat.le_refl _) fun token rest less =>
    match token with
    | .keyword .declare => (declaration table rest).weaken (Nat.le_of_lt less)
    | token =>
      giveBack token rest less fun rest₁ le =>
        (expression table rest₁).bind le fun value rest₂ less₂ =>
          done ⟨value, table⟩ rest₂ (Nat.lt_of_lt_of_le less₂ le)

end Within

namespace Tokenizer

/-- Evaluates `primary := ( expression ) | - primary | + primary | Number | Identifier`. -/
def primary (table : SymbolTable) (t : Tokenizer) : Step Float := (Within.primary table t).val

/-- Evaluates `term := primary {(*|/|%) primary}`. -/
def term (table : SymbolTable) (t : Tokenizer) : Step Float := (Within.term table t).val

/-- Joins the factors that follow to the value of those before. -/
def termTail (table : SymbolTable) (left : Float) (t : Tokenizer) : Step Float :=
  (Within.termTail table left t).val

/-- Evaluates `expression := term {(+|-) term}`. -/
def expression (table : SymbolTable) (t : Tokenizer) : Step Float :=
  (Within.expression table t).val

/-- Joins the terms that follow to the value of those before. -/
def expressionTail (table : SymbolTable) (left : Float) (t : Tokenizer) : Step Float :=
  (Within.expressionTail table left t).val

/-- Evaluates `declaration := let Identifier = expression`, from behind its first word on. -/
def declaration (table : SymbolTable) (t : Tokenizer) : Step Evaluated :=
  (Within.declaration table t).val

/-- Evaluates `statement := declaration | expression`. -/
def statement (table : SymbolTable) (t : Tokenizer) : Step Evaluated :=
  (Within.statement table t).val

/-- What a primary is that starts with a token just taken. -/
def primaryFrom (table : SymbolTable) (token : Token) (rest : Tokenizer) : Step Float :=
  match token with
  | .punct .leftParen =>
    (rest.expression table).andThen fun value rest =>
      rest.next.andThen fun token rest =>
        match token with
        | .punct .rightParen => .settle (.ok value) rest
        | token => rest.reject token .closingExpected
  | .punct .minus => (rest.primary table).andThen fun value rest => .settle (.ok (-value)) rest
  | .punct .plus => rest.primary table
  | .number value => .settle (.ok value) rest
  | .identifier name => .settle (table.lookup name) rest
  | token => rest.reject token .primaryExpected

theorem primary_eq (table : SymbolTable) (t : Tokenizer) :
    t.primary table = t.next.andThen fun token rest =>
      (primaryFrom table token rest).after [.operand token] := by
  unfold primary
  rw [Within.primary]
  apply Within.val_bind
  intro token rest less
  refine congrArg (Step.after [.operand token]) ?_
  unfold primaryFrom
  split
  · apply Within.val_bind
    intro value rest₁ less₁
    apply Within.val_bind
    intro token rest₂ less₂
    split <;> rfl
  · exact Within.val_bind fun _ _ _ => rfl
  all_goals rfl

theorem term_eq (table : SymbolTable) (t : Tokenizer) :
    t.term table = (t.primary table).andThen fun left rest => rest.termTail table left := by
  unfold term
  rw [Within.term]
  exact Within.val_bind fun _ _ _ => rfl

theorem termTail_eq (table : SymbolTable) (left : Float) (t : Tokenizer) :
    t.termTail table left = t.next.andThen fun token rest =>
      match ProductOperator.ofToken? token with
      | some operator =>
        (rest.primary table).andThen fun right rest =>
          (Step.settle (operator.apply left right) rest).andThen fun value rest =>
            rest.termTail table value
      | none => (rest.pushBack token).andThen fun _ rest => .settle (.ok left) rest := by
  unfold termTail
  rw [Within.termTail]
  apply Within.val_bind
  intro token rest less
  split
  · apply Within.val_bind
    intro right rest₁ less₁
    exact Within.val_bind fun _ _ _ => rfl
  · exact Within.val_giveBack fun _ _ => rfl

theorem expression_eq (table : SymbolTable) (t : Tokenizer) :
    t.expression table =
      (t.term table).andThen fun left rest => rest.expressionTail table left := by
  unfold expression
  rw [Within.expression]
  exact Within.val_bind fun _ _ _ => rfl

theorem expressionTail_eq (table : SymbolTable) (left : Float) (t : Tokenizer) :
    t.expressionTail table left = t.next.andThen fun token rest =>
      match SumOperator.ofToken? token with
      | some operator =>
        (rest.term table).andThen fun right rest =>
          rest.expressionTail table (operator.apply left right)
      | none => (rest.pushBack token).andThen fun _ rest => .settle (.ok left) rest := by
  unfold expressionTail
  rw [Within.expressionTail]
  apply Within.val_bind
  intro token rest less
  split
  · exact Within.val_bind fun _ _ _ => rfl
  · exact Within.val_giveBack fun _ _ => rfl

theorem declaration_eq (table : SymbolTable) (t : Tokenizer) :
    t.declaration table = t.next.andThen fun token rest =>
      match token with
      | .identifier name =>
        rest.next.andThen fun token rest =>
          match token with
          | .punct .equal =>
            (rest.expression table).andThen fun value rest =>
              (Step.settle (table.declare name value) rest).andThen fun table rest =>
                (Step.settle (.ok ⟨value, table⟩) rest).after [.declared name value]
          | token => rest.reject token .equalExpected
      | token => rest.reject token .nameExpected := by
  unfold declaration Within.declaration
  apply Within.val_bind
  intro token rest less
  split
  · apply Within.val_bind
    intro token rest₁ less₁
    split
    · apply Within.val_bind
      intro value rest₂ less₂
      exact Within.val_bind fun _ _ _ => rfl
    · rfl
  · rfl

theorem statement_eq (table : SymbolTable) (t : Tokenizer) :
    t.statement table = t.next.andThen fun token rest =>
      match token with
      | .keyword .declare => rest.declaration table
      | token =>
        (rest.pushBack token).andThen fun _ rest =>
          (rest.expression table).andThen fun value rest => .settle (.ok ⟨value, table⟩) rest := by
  unfold statement Within.statement
  apply Within.val_bind
  intro token rest less
  split
  · rfl
  · apply Within.val_giveBack
    intro rest₁ le
    exact Within.val_bind fun _ _ _ => rfl

end Tokenizer

end Calculator
