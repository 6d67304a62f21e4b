import Calculator.Proofs.GrammarInduction
import Calculator.Proofs.SyntaxTree

namespace Calculator

namespace Within

mutual

/-- `primary := ( expression ) | - primary | + primary | Number | Identifier` -/
def primaryTree (t : Tokenizer) : Within t.size PrimaryTree :=
  (next t).bind (Nat.le_refl _) fun token rest less =>
    match token with
    | .punct .leftParen =>
      (expressionTree rest).bind (Nat.le_of_lt less) fun inner rest₁ less₁ =>
        (next rest₁).bind (by omega) fun token rest₂ less₂ =>
          match token with
          | .punct .rightParen => done (.group inner) rest₂ (by omega)
          | token => reject token .closingExpected rest₂ (by omega)
    | .punct .minus =>
      (primaryTree rest).bind (Nat.le_of_lt less) fun operand rest₁ less₁ =>
        done (.negative operand) rest₁ (by omega)
    | .punct .plus =>
      (primaryTree rest).bind (Nat.le_of_lt less) fun operand rest₁ less₁ =>
        done (.positive operand) rest₁ (by omega)
    | .number value => done (.number value) rest less
    | .identifier name => done (.name name) rest less
    | token => reject token .primaryExpected rest less
termination_by (t.size, 0)

/-- `term := primary {(*|/|%) primary}` -/
def termTree (t : Tokenizer) : Within t.size TermTree :=
  (primaryTree t).bind (Nat.le_refl _) fun first rest less =>
    (factorList rest).bind less fun factors rest₁ less₁ =>
      done (.term first factors) rest₁ (by omega)
termination_by (t.size, 1)

/-- The factors that follow. -/
def factorList (t : Tokenizer) : Within (t.size + 1) FactorList :=
  (next t).bind (Nat.le_succ _) fun token rest less =>
    match ProductOperator.ofToken? token with
    | some operator =>
      (primaryTree rest).bind (Nat.le_succ_of_le (Nat.le_of_lt less)) fun operand rest₁ less₁ =>
        (factorList rest₁).bind (Nat.succ_le_succ (Nat.le_of_lt (Nat.lt_trans less₁ less)))
            fun more rest₂ less₂ =>
          done (.factor operator operand more) rest₂
            (Nat.lt_trans less₂ (Nat.succ_lt_succ (Nat.lt_trans less₁ less)))
    | none =>
      giveBack token rest less fun rest₁ le => done .done rest₁ (Nat.lt_succ_of_le le)
termination_by (t.size, 0)

/-- `expression := term {(+|-) term}` -/
def expressionTree (t : Tokenizer) : Within t.size ExpressionTree :=
  (termTree t).bind (Nat.le_refl _) fun first rest less =>
    (termList rest).bind less fun terms rest₁ less₁ =>
      done (.expression first terms) rest₁ (by omega)
termination_by (t.size, 2)

/-- The terms that follow. -/
def termList (t : Tokenizer) : Within (t.size + 1) TermList :=
  (next t).bind (Nat.le_succ _) fun token rest less =>
    match SumOperator.ofToken? token with
    | some operator =>
      (termTree rest).bind (Nat.le_succ_of_le (Nat.le_of_lt less)) fun operand rest₁ less₁ =>
        (termList rest₁).bind (Nat.succ_le_succ (Nat.le_of_lt (Nat.lt_trans less₁ less)))
            fun more rest₂ less₂ =>
          done (.term operator operand more) rest₂
            (Nat.lt_trans less₂ (Nat.succ_lt_succ (Nat.lt_trans less₁ less)))
    | none =>
      giveBack token rest less fun rest₁ le => done .done rest₁ (Nat.lt_succ_of_le le)
termination_by (t.size, 0)

end

end Within

namespace Tokenizer

/-- Builds the tree of `primary := ( expression ) | - primary | + primary | Number | Identifier`. -/
def primaryTree (t : Tokenizer) : Step PrimaryTree := (Within.primaryTree t).val

/-- Builds the tree of `term := primary {(*|/|%) primary}`. -/
def termTree (t : Tokenizer) : Step TermTree := (Within.termTree t).val

/-- Builds the list of the factors that follow. -/
def factorList (t : Tokenizer) : Step FactorList := (Within.factorList t).val

/-- Builds the tree of `expression := term {(+|-) term}`. -/
def expressionTree (t : Tokenizer) : Step ExpressionTree := (Within.expressionTree t).val

/-- Builds the list of the terms that follow. -/
def termList (t : Tokenizer) : Step TermList := (Within.termList t).val

/-- The tree of a primary that starts with a token just taken. -/
def primaryTreeFrom (token : Token) (rest : Tokenizer) : Step PrimaryTree :=
  match token with
  | .punct .leftParen =>
    rest.expressionTree.andThen fun inner rest =>
      rest.next.andThen fun token rest =>
        match token with
        | .punct .rightParen => .settle (.ok (.group inner)) rest
        | token => rest.reject token .closingExpected
  | .punct .minus =>
    rest.primaryTree.andThen fun operand rest => .settle (.ok (.negative operand)) rest
  | .punct .plus =>
    rest.primaryTree.andThen fun operand rest => .settle (.ok (.positive operand)) rest
  | .number value => .settle (.ok (.number value)) rest
  | .identifier name => .settle (.ok (.name name)) rest
  | token => rest.reject token .primaryExpected

theorem primaryTree_eq (t : Tokenizer) : t.primaryTree = t.next.andThen primaryTreeFrom := by
  unfold primaryTree
  rw [Within.primaryTree]
  apply Within.val_bind
  intro token rest less
  unfold primaryTreeFrom
  split
  · apply Within.val_bind
    intro inner rest₁ less₁
    apply Within.val_bind
    intro token rest₂ less₂
    split <;> rfl
  · exact Within.val_bind fun _ _ _ => rfl
  · exact Within.val_bind fun _ _ _ => rfl
  all_goals rfl

theorem termTree_eq (t : Tokenizer) :
    t.termTree = t.primaryTree.andThen fun first rest =>
      rest.factorList.andThen fun factors rest => .settle (.ok (.term first factors)) rest := by
  unfold termTree
  rw [Within.termTree]
  exact Within.val_bind fun _ _ _ => Within.val_bind fun _ _ _ => rfl

theorem factorList_eq (t : Tokenizer) :
    t.factorList = t.next.andThen fun token rest =>
      match ProductOperator.ofToken? token with
      | some operator =>
        rest.primaryTree.andThen fun operand rest =>
          rest.factorList.andThen fun more rest =>
            .settle (.ok (.factor operator operand more)) rest
      | none => (rest.pushBack token).andThen fun _ rest => .settle (.ok .done) rest := by
  unfold factorList
  rw [Within.factorList]
  apply Within.val_bind
  intro token rest less
  split
  · exact Within.val_bind fun _ _ _ => Within.val_bind fun _ _ _ => rfl
  · exact Within.val_giveBack fun _ _ => rfl

theorem expressionTree_eq (t : Tokenizer) :
    t.expressionTree = t.termTree.andThen fun first rest =>
      rest.termList.andThen fun terms rest => .settle (.ok (.expression first terms)) rest := by
  unfold expressionTree
  rw [Within.expressionTree]
  exact Within.val_bind fun _ _ _ => Within.val_bind fun _ _ _ => rfl

theorem termList_eq (t : Tokenizer) :
    t.termList = t.next.andThen fun token rest =>
      match SumOperator.ofToken? token with
      | some operator =>
        rest.termTree.andThen fun operand rest =>
          rest.termList.andThen fun more rest =>
            .settle (.ok (.term operator operand more)) rest
      | none => (rest.pushBack token).andThen fun _ rest => .settle (.ok .done) rest := by
  unfold termList
  rw [Within.termList]
  apply Within.val_bind
  intro token rest less
  split
  · exact Within.val_bind fun _ _ _ => Within.val_bind fun _ _ _ => rfl
  · exact Within.val_giveBack fun _ _ => rfl

/-- Builds the tree of `declaration := let Identifier = expression`, from behind its first word
on. -/
def declarationTree (t : Tokenizer) : Step StatementTree :=
  t.next.andThen fun token rest =>
    match token with
    | .identifier name =>
      rest.next.andThen fun token rest =>
        match token with
        | .punct .equal =>
          rest.expressionTree.andThen fun tree rest => .settle (.ok (.declaration name tree)) rest
        | token => rest.reject token .equalExpected
    | token => rest.reject token .nameExpected

/-- Builds the tree of `statement := declaration | expression`. -/
def statementTree (t : Tokenizer) : Step StatementTree :=
  t.next.andThen fun token rest =>
    match token with
    | .keyword .declare => rest.declarationTree
    | token =>
      (rest.pushBack token).andThen fun _ rest =>
        rest.expressionTree.andThen fun tree rest => .settle (.ok (.expression tree)) rest

theorem size_primaryTree {t : Tokenizer} {tree : PrimaryTree}
    (h : t.primaryTree.result = .ok tree) :
    t.primaryTree.tokens.size < t.size :=
  Step.size_of_bounded (Within.primaryTree t).property h

theorem size_termTree {t : Tokenizer} {tree : TermTree} (h : t.termTree.result = .ok tree) :
    t.termTree.tokens.size < t.size :=
  Step.size_of_bounded (Within.termTree t).property h

end Tokenizer

end Calculator
