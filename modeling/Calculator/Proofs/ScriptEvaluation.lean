import Calculator.Proofs.GrammarAcceptance
import Calculator.Proofs.Script

namespace Calculator

variable {α β : Type}

/-- What a step comes to, as far as tokens go. -/
def Step.reading (step : Step α) : Reading α := ⟨step.result, step.tokens.stream⟩

namespace Step

@[simp] theorem reading_after (trace : List Event) (step : Step α) :
    (step.after trace).reading = step.reading := rfl

@[simp] theorem reading_settle (result : Except Fault α) (t : Tokenizer) :
    (settle result t).reading = ⟨result, t.stream⟩ := rfl

theorem reading_of_error {step : Step α} {fault : Fault} (h : step.result = .error fault) :
    step.reading = ⟨.error fault, step.tokens.stream⟩ := by rw [reading, h]

theorem reading_of_ok {step : Step α} {a : α} (h : step.result = .ok a) :
    step.reading = ⟨.ok a, step.tokens.stream⟩ := by rw [reading, h]

theorem reading_andThen {step : Step α} {f : α → Tokenizer → Step β} {g : α → Script → Reading β}
    (same : ∀ a, step.result = .ok a → (f a step.tokens).reading = g a step.tokens.stream) :
    (step.andThen f).reading = step.reading.andThen g := by
  cases h : step.result with
  | ok a => rw [andThen_of_ok h, reading_after, same a h, reading_of_ok h, Reading.andThen_ok]
  | error fault => rw [andThen_of_error h, reading_of_error h, Reading.andThen_error]; rfl

theorem reading_andThen_andThen {γ : Type} {step : Step α} {f : α → Tokenizer → Step β}
    {g : β → Script → Reading γ} {h : α → Script → Reading γ}
    (same : ∀ a, step.result = .ok a →
      (f a step.tokens).reading.andThen g = h a step.tokens.stream) :
    (step.andThen f).reading.andThen g = step.reading.andThen h := by
  cases hr : step.result with
  | ok a => rw [andThen_of_ok hr, reading_after, same a hr, reading_of_ok hr, Reading.andThen_ok]
  | error fault => rw [andThen_of_error hr, reading_of_error hr]; rfl

end Step

namespace Tokenizer

theorem reading_next (t : Tokenizer) : t.next.reading = Script.next t.stream := by
  cases h : t.stream with
  | nil =>
    obtain ⟨taken, left⟩ := next_of_stream_nil h
    rw [Step.reading_of_error taken, left]
    rfl
  | cons first rest =>
    cases first with
    | ok token =>
      obtain ⟨taken, left⟩ := next_of_stream_ok h
      rw [Step.reading_of_ok taken, left]
      rfl
    | error fault =>
      obtain ⟨taken, left⟩ := next_of_stream_error h
      rw [Step.reading_of_error taken, left]
      rfl

theorem reading_pushBack {t : Tokenizer} {token : Token} {f : Unit → Tokenizer → Step α}
    {g : Script → Reading α} (free : t.held = none)
    (same : ∀ u : Tokenizer, u.stream = .ok token :: t.stream → (f () u).reading = g u.stream) :
    ((t.pushBack token).andThen f).reading = g (.ok token :: t.stream) := by
  have back := stream_pushBack token free
  rw [pushBack_of_free token free] at back ⊢
  exact (same _ back).trans (congrArg g back)

theorem reading_reject {t : Tokenizer} {token : Token} {cause : GrammarFault}
    (free : t.held = none) :
    (t.reject token cause : Step α).reading = Script.reject token cause t.stream :=
  reading_pushBack (g := fun script => ⟨.error (.grammar cause), script⟩) free fun _ _ => rfl

end Tokenizer

namespace Script

/-- What a move comes to with a token that has just been taken. -/
def follow (table : SymbolTable) (token : Token) (rest : Script) : Move → Reading Float
  | .goOn phase frames => evaluate table phase frames rest
  | .accept value => ⟨.ok value, .ok token :: rest⟩
  | .refuse fault givenBack => ⟨.error fault, if givenBack then .ok token :: rest else rest⟩

/-- The evaluation behind a primary. -/
def resume (table : SymbolTable) (frames : List Frame) (value : Float) (rest : Script) :
    Reading Float :=
  match settleFrames value frames with
  | .ok (total, frames) => evaluate table (.operator total) frames rest
  | .error fault => ⟨.error fault, rest⟩

variable {table : SymbolTable} {frames : List Frame} {token : Token} {rest : Script}

theorem evaluate_cons (phase : Phase) : evaluate table phase frames (.ok token :: rest) =
    follow table token rest (phase.move table frames token) := by
  rw [evaluate]
  cases phase.move table frames token <;> rfl

theorem evaluate_eq (phase : Phase) (script : Script) : evaluate table phase frames script =
    (next script).andThen fun token rest =>
      follow table token rest (phase.move table frames token) := by
  match script with
  | [] => rfl
  | .ok token :: rest => exact evaluate_cons phase
  | .error fault :: rest => rfl

theorem follow_settleMove (value : Float) :
    follow table token rest (settleMove value frames) = resume table frames value rest := by
  unfold settleMove resume
  cases settleFrames value frames <;> rfl

theorem firstToken_eq (script : Script) : firstToken script =
    (next script).andThen fun token rest =>
      match token with
      | .punct .separator => firstToken rest
      | token => ⟨.ok token, rest⟩ := by
  match script with
  | [] => rfl
  | .error fault :: rest => rfl
  | .ok token :: rest =>
    rw [next, Reading.andThen_ok]
    split
    next => rfl
    next noSeparator =>
      unfold firstToken
      split
      next h =>
        cases h
        exact (noSeparator rfl).elim
      next => rfl

end Script

/-- No sign and no factor waits for a primary. -/
def NoOperand (frames : List Frame) : Prop :=
  ∀ value, settleFrames value frames = .ok (value, frames)

/-- No operator at all waits for a value. -/
def Closed : List Frame → Prop
  | [] => True
  | .group :: _ => True
  | _ => False

theorem Closed.noOperand {frames : List Frame} (h : Closed frames) : NoOperand frames := by
  intro value
  unfold Closed at h
  split at h
  next => rfl
  next => rfl
  next => exact h.elim

theorem Closed.joinTerm {frames : List Frame} (h : Closed frames) (value : Float) :
    joinTerm value frames = (value, frames) := by
  unfold Closed at h
  split at h
  next => rfl
  next => rfl
  next => exact h.elim

theorem noOperand_sum (left : Float) (operator : SumOperator) (frames : List Frame) :
    NoOperand (.sum left operator :: frames) := fun _ => rfl

theorem Script.evaluate_sum {table : SymbolTable} {frames : List Frame} {left right : Float}
    {operator : SumOperator} {rest : Script} (ends : EndsTerm rest) (closed : Closed frames) :
    evaluate table (.operator right) (.sum left operator :: frames) rest =
      evaluate table (.operator (operator.apply left right)) frames rest := by
  obtain ⟨token, more, rfl, other⟩ := ends
  have noProduct := ProductOperator.ofToken?_eq_none.mpr other
  have joined : joinTerm right (.sum left operator :: frames) =
      (operator.apply left right, frames) := rfl
  rw [evaluate_cons, evaluate_cons, Phase.move, Phase.move]
  simp only [operatorMove, noProduct, closed.joinTerm, joined]

theorem Script.resume_of_noOperand {frames : List Frame} (h : NoOperand frames)
    (table : SymbolTable) (value : Float) (rest : Script) :
    resume table frames value rest = evaluate table (.operator value) frames rest := by
  simp only [resume, h value]

namespace Tokenizer

/-- A primary is evaluated in the same way on the tokens alone, whatever waits for its value. -/
def PrimaryReads (table : SymbolTable) (t : Tokenizer) : Prop :=
  ∀ frames, Script.evaluate table .operand frames t.stream =
    (t.primary table).reading.andThen (Script.resume table frames)

def TermReads (table : SymbolTable) (t : Tokenizer) : Prop :=
  ∀ frames, NoOperand frames → Script.evaluate table .operand frames t.stream =
    (t.term table).reading.andThen fun value => Script.evaluate table (.operator value) frames

def TermTailReads (table : SymbolTable) (left : Float) (t : Tokenizer) : Prop :=
  ∀ frames, Script.evaluate table (.operator left) frames t.stream =
    (t.termTail table left).reading.andThen fun value =>
      Script.evaluate table (.operator value) frames

def ExpressionReads (table : SymbolTable) (t : Tokenizer) : Prop :=
  ∀ frames, Closed frames → Script.evaluate table .operand frames t.stream =
    (t.expression table).reading.andThen fun value =>
      Script.evaluate table (.operator value) frames

def ExpressionTailReads (table : SymbolTable) (left : Float) (t : Tokenizer) : Prop :=
  EndsTerm t.stream → ∀ frames, Closed frames →
    Script.evaluate table (.operator left) frames t.stream =
      (t.expressionTail table left).reading.andThen fun value =>
        Script.evaluate table (.operator value) frames

/-- Behind the inner expression of a group, its closing parenthesis comes next. -/
theorem reading_closing {table : SymbolTable} {frames : List Frame} {u : Tokenizer} (value : Float)
    (ends : EndsExpression u.stream) :
    (u.next.andThen fun token rest =>
      match token with
      | .punct .rightParen => .settle (.ok value) rest
      | token => rest.reject token .closingExpected).reading.andThen (Script.resume table frames) =
        Script.evaluate table (.operator value) (.group :: frames) u.stream := by
  obtain ⟨token, more, same, other⟩ := ends
  obtain ⟨noSum, noProduct⟩ := endsExpression_cons.mp ⟨token, more, rfl, other⟩
  obtain ⟨taken, left⟩ := next_of_stream_ok same
  have closing : operatorMove value (.group :: frames) token =
      closingMove value (.group :: frames) token := by
    simp only [operatorMove, noProduct, joinTerm, noSum]
  rw [same, Script.evaluate_cons, Phase.move, closing, Step.andThen_of_ok taken,
    Step.reading_after]
  by_cases paren : token = .punct .rightParen
  · subst paren
    rw [closingMove, if_pos rfl, Script.follow_settleMove]
    simp only [Step.reading_settle, Reading.andThen_ok, left]
  · rw [closingMove, if_neg paren]
    split
    next => exact absurd rfl paren
    next =>
      rw [reading_reject (held_next u), left]
      rfl

theorem reading_primaryFrom {table : SymbolTable} {frames : List Frame} {rest : Tokenizer}
    (free : rest.held = none) (operand : PrimaryReads table rest)
    (inner : ExpressionReads table rest) (token : Token) :
    (primaryFrom table token rest).reading.andThen (Script.resume table frames) =
      Script.follow table token rest.stream (operandMove table frames token) := by
  unfold primaryFrom
  split
  next =>
    refine (Step.reading_andThen_andThen fun value read => ?_).trans
      (inner (.group :: frames) trivial).symm
    obtain ⟨tree, _, ends, _⟩ := leaves_expression_iff.mp ⟨read, rfl⟩
    exact reading_closing value ends
  next =>
    refine (Step.reading_andThen_andThen fun value _ => ?_).trans (operand (.negative :: frames)).symm
    rfl
  next => exact (operand frames).symm
  next value => exact (Script.follow_settleMove value).symm
  next name =>
    rw [Step.reading_settle, operandMove]
    cases table.lookup name with
    | ok value => exact (Script.follow_settleMove value).symm
    | error fault => rfl
  next noGroup noMinus noPlus noNumber noName =>
    rw [reading_reject free]
    cases token with
    | punct symbol =>
      cases symbol with
      | leftParen => exact (noGroup rfl).elim
      | minus => exact (noMinus rfl).elim
      | plus => exact (noPlus rfl).elim
      | _ => rfl
    | number value => exact (noNumber value rfl).elim
    | keyword word => rfl
    | identifier name => exact (noName name rfl).elim

theorem reading_giveBack (t : Tokenizer) (token : Token) (value : Float) :
    ((t.next.tokens.pushBack token).andThen fun _ rest => Step.settle (.ok value) rest).reading =
      ⟨.ok value, .ok token :: t.next.tokens.stream⟩ :=
  reading_pushBack (g := fun script => ⟨.ok value, script⟩) (held_next t) fun _ _ => rfl

theorem script_evaluation (table : SymbolTable) (t : Tokenizer) : PrimaryReads table t ∧
    TermReads table t ∧ ExpressionReads table t ∧ (∀ left, TermTailReads table left t) ∧
      ∀ left, ExpressionTailReads table left t := by
  -- What waits is arbitrary throughout: each operand is evaluated in front of more that waits.
  refine grammar_induction table ?primary ?term ?termTail ?expression ?expressionTail t
  case primary =>
    intro t ih frames
    rw [Script.evaluate_eq, primary_eq, ← reading_next]
    refine (Step.reading_andThen_andThen fun token taken => ?_).symm
    obtain ⟨operand, inner⟩ := ih token taken
    exact reading_primaryFrom (held_next t) operand inner token
  case term =>
    intro t operand tail frames ready
    rw [operand frames, term_eq]
    refine (Step.reading_andThen_andThen fun left read => ?_).symm
    rw [Script.resume_of_noOperand ready]
    exact (tail left read frames).symm
  case termTail =>
    intro left t ih frames
    rw [Script.evaluate_eq, termTail_eq, ← reading_next]
    refine (Step.reading_andThen_andThen fun token taken => ?_).symm
    obtain ⟨operand, tail⟩ := ih token taken
    cases sign : ProductOperator.ofToken? token with
    | some operator =>
      have move : operatorMove left frames token =
          .goOn .operand (.product left operator :: frames) := by simp only [operatorMove, sign]
      rw [Phase.move, move]
      refine (Step.reading_andThen_andThen fun right read => ?_).trans
        (operand (.product left operator :: frames)).symm
      rw [Script.resume, settleFrames]
      cases joined : operator.apply left right with
      | ok value => exact (tail right value read frames).symm
      | error fault => rfl
    | none =>
      exact (congrArg (Reading.andThen · _) (reading_giveBack t token left)).trans
        (Script.evaluate_cons (.operator left))
  case expression =>
    intro t operand tail frames closed
    rw [operand frames closed.noOperand, expression_eq]
    refine (Step.reading_andThen_andThen fun left read => ?_).symm
    obtain ⟨tree, _, ends, _⟩ := leaves_term_iff.mp ⟨read, rfl⟩
    exact (tail left read ends frames closed).symm
  case expressionTail =>
    intro left t ih past frames closed
    rw [Script.evaluate_eq, expressionTail_eq, ← reading_next]
    refine (Step.reading_andThen_andThen fun token taken => ?_).symm
    obtain ⟨operand, tail⟩ := ih token taken
    cases sign : SumOperator.ofToken? token with
    | some operator =>
      have move : operatorMove left frames token =
          .goOn .operand (.sum left operator :: frames) := by
        rw [stream_of_ok taken] at past
        simp only [operatorMove, endsTerm_cons.mp past, closed.joinTerm, sign]
      rw [Phase.move, move]
      refine (Step.reading_andThen_andThen fun right read => ?_).trans
        (operand _ (noOperand_sum left operator frames)).symm
      obtain ⟨tree, _, ends, _⟩ := leaves_term_iff.mp ⟨read, rfl⟩
      rw [Script.evaluate_sum ends closed]
      exact (tail right _ read ends frames closed).symm
    | none =>
      exact (congrArg (Reading.andThen · _) (reading_giveBack t token left)).trans
        (Script.evaluate_cons (.operator left))

theorem reading_expression (table : SymbolTable) (t : Tokenizer) :
    (t.expression table).reading = Script.expression table t.stream := by
  have run := (script_evaluation table t).2.2.1 [] trivial
  rw [Script.expression, run]
  cases h : (t.expression table).result with
  | error fault => rw [Step.reading_of_error h, Reading.andThen_error]
  | ok value =>
    obtain ⟨tree, _, ends, _⟩ := leaves_expression_iff.mp ⟨h, rfl⟩
    obtain ⟨token, more, same, other⟩ := ends
    obtain ⟨noSum, noProduct⟩ := endsExpression_cons.mp ⟨token, more, rfl, other⟩
    have stop : operatorMove value [] token = .accept value := by
      simp only [operatorMove, noProduct, joinTerm, noSum, closingMove]
    rw [Step.reading_of_ok h, Reading.andThen_ok, same, Script.evaluate_cons, Phase.move, stop]
    rfl

theorem reading_declaration (table : SymbolTable) (t : Tokenizer) :
    (t.declaration table).reading = Script.declaration table t.stream := by
  rw [declaration_eq, Script.declaration, ← reading_next]
  apply Step.reading_andThen
  intro token _
  cases token with
  | identifier name =>
    dsimp only
    rw [← reading_next]
    apply Step.reading_andThen
    intro sign _
    cases sign with
    | punct symbol =>
      cases symbol with
      | equal =>
        dsimp only
        rw [← reading_expression]
        apply Step.reading_andThen
        intro value _
        exact Step.reading_andThen fun _ _ => rfl
      | _ => exact reading_reject (held_next _)
    | _ => exact reading_reject (held_next _)
  | _ => exact reading_reject (held_next _)

theorem reading_statement (table : SymbolTable) (t : Tokenizer) :
    (t.statement table).reading = Script.statement table t.stream := by
  have expression : ∀ token, t.next.result = .ok token →
      ((t.next.tokens.pushBack token).andThen fun _ rest =>
        (rest.expression table).andThen fun value rest =>
          .settle (.ok (⟨value, table⟩ : Evaluated)) rest).reading =
      (Script.expression table (.ok token :: t.next.tokens.stream)).andThen
        fun value rest => ⟨.ok ⟨value, table⟩, rest⟩ := by
    intro token _
    refine reading_pushBack (held_next t) (g := fun script => (Script.expression table script).andThen
      fun value rest => (⟨.ok ⟨value, table⟩, rest⟩ : Reading Evaluated)) fun u _ => ?_
    rw [← reading_expression]
    exact Step.reading_andThen fun _ _ => rfl
  rw [statement_eq, Script.statement, ← reading_next]
  apply Step.reading_andThen
  intro token taken
  cases token with
  | keyword word =>
    cases word with
    | declare => exact reading_declaration table _
    | _ => exact expression _ taken
  | _ => exact expression _ taken

theorem reading_firstToken (t : Tokenizer) :
    t.firstToken.reading = Script.firstToken t.stream := by
  rw [firstToken_eq, Script.firstToken_eq, ← reading_next]
  apply Step.reading_andThen
  intro token taken
  cases token with
  | punct symbol =>
    cases symbol with
    | separator =>
      have less := size_next_ok taken
      exact reading_firstToken t.next.tokens
    | _ => rfl
  | _ => rfl
termination_by t.size

theorem held_firstToken (t : Tokenizer) : t.firstToken.tokens.held = none := by
  rw [firstToken_eq]
  cases h : t.next.result with
  | error fault =>
    rw [Step.andThen_of_error h]
    exact held_next t
  | ok token =>
    rw [Step.andThen_of_ok h, Step.after_tokens]
    split
    next =>
      have less := size_next_ok h
      exact held_firstToken t.next.tokens
    next => exact held_next t
termination_by t.size

/-- A statement is evaluated from its first token on in the same way on the tokens alone. -/
theorem reading_statementAt (table : SymbolTable) (t : Tokenizer) :
    (statementAt table t.firstToken).reading = (Script.firstToken t.stream).andThen
      fun token rest => Script.statement table (.ok token :: rest) := by
  rw [statementAt, ← reading_firstToken]
  apply Step.reading_andThen
  intro token _
  exact reading_pushBack (held_firstToken t) fun u _ => reading_statement table u

end Tokenizer

end Calculator
