import Calculator.Proofs.GrammarInduction

namespace Calculator

variable {α β : Type}

/-- What holds of a tokenizer along an account of what happened, `I` wherever the evaluator stands
and `J` right behind a token that it has taken, which is the only token that it gives back. -/
structure Course (I : List Event → Tokenizer → Prop) (J : Token → List Event → Tokenizer → Prop) :
    Prop where
  next {trace : List Event} {t : Tokenizer} : I trace t →
    (∀ token, t.next.result = .ok token → J token (trace ++ t.next.trace) t.next.tokens) ∧
      ∀ fault, t.next.result = .error fault → I (trace ++ t.next.trace) t.next.tokens
  leave {token : Token} {trace : List Event} {t : Tokenizer} : J token trace t → I trace t
  pushBack {token : Token} {trace : List Event} {t : Tokenizer} : J token trace t →
    I (trace ++ (t.pushBack token).trace) (t.pushBack token).tokens
  operand {token : Token} {trace : List Event} {t : Tokenizer} : J token trace t →
    J token (trace ++ [.operand token]) t
  declared {name : String} {value : Float} {trace : List Event} {t : Tokenizer} : I trace t →
    I (trace ++ [.declared name value]) t

/-- A step comes to a tokenizer, behind a trace, of which something holds. -/
def Step.Upholds (I : List Event → Tokenizer → Prop) (trace : List Event) (step : Step α) : Prop :=
  I (trace ++ step.trace) step.tokens

/-- What starts where `I` holds comes to where it holds. -/
def Tokenizer.Follows (I : List Event → Tokenizer → Prop) (t : Tokenizer) (step : Step α) : Prop :=
  ∀ trace, I trace t → step.Upholds I trace

namespace Course

variable {I : List Event → Tokenizer → Prop} {J : Token → List Event → Tokenizer → Prop}
  (course : Course I J) {t : Tokenizer} {trace : List Event}

theorem andThen {step : Step α} {f : α → Tokenizer → Step β} (first : step.Upholds I trace)
    (second : ∀ a, step.result = .ok a → (f a step.tokens).Upholds I (trace ++ step.trace)) :
    (step.andThen f).Upholds I trace := by
  cases h : step.result with
  | ok a =>
    have later := second a h
    rw [Step.andThen_of_ok h]
    unfold Step.Upholds at later ⊢
    rwa [List.append_assoc] at later
  | error fault =>
    rw [Step.andThen_of_error h]
    exact first

theorem settle (holds : I trace t) (result : Except Fault α) :
    (Step.settle result t).Upholds I trace := by
  unfold Step.Upholds
  rwa [Step.settle, List.append_nil]

include course

/-- Behind a token that was taken there is more to rely on. -/
theorem next_andThen {f : Token → Tokenizer → Step α} (holds : I trace t)
    (second : ∀ token, t.next.result = .ok token → J token (trace ++ t.next.trace) t.next.tokens →
      (f token t.next.tokens).Upholds I (trace ++ t.next.trace)) :
    (t.next.andThen f).Upholds I trace := by
  obtain ⟨taken, broken⟩ := course.next holds
  refine andThen ?_ fun token h => second token h (taken token h)
  cases h : t.next.result with
  | ok token => exact course.leave (taken token h)
  | error fault => exact broken fault h

theorem pushBack_andThen {f : Unit → Tokenizer → Step α} {token : Token} (behind : J token trace t)
    (second : ∀ u trace, I trace u → (f () u).Upholds I trace) :
    ((t.pushBack token).andThen f).Upholds I trace :=
  andThen (course.pushBack behind) fun _ _ => second _ _ (course.pushBack behind)

theorem reject {token : Token} (behind : J token trace t) (cause : GrammarFault) :
    (t.reject token cause : Step α).Upholds I trace :=
  course.pushBack_andThen behind fun _ _ holds => settle holds _

theorem primaryFrom {table : SymbolTable} (operand : t.Follows I (t.primary table))
    (inner : t.Follows I (t.expression table)) {token : Token} (behind : J token trace t) :
    (Tokenizer.primaryFrom table token t).Upholds I trace := by
  have holds := course.leave behind
  unfold Tokenizer.primaryFrom
  split
  next =>
    refine andThen (inner _ holds) fun value _ => ?_
    refine course.next_andThen (inner _ holds) fun close _ behind => ?_
    split
    next => exact settle (course.leave behind) _
    next => exact course.reject behind _
  next => exact andThen (operand _ holds) fun value _ => settle (operand _ holds) _
  next => exact operand _ holds
  next => exact settle holds _
  next => exact settle holds _
  next => exact course.reject behind _

/-- The whole evaluator keeps what its operations keep. -/
theorem grammar (table : SymbolTable) (t : Tokenizer) : t.Follows I (t.primary table) ∧
    t.Follows I (t.term table) ∧ t.Follows I (t.expression table) ∧
      (∀ left, t.Follows I (t.termTail table left)) ∧
        ∀ left, t.Follows I (t.expressionTail table left) := by
  refine @Tokenizer.grammar_induction table (fun t => t.Follows I (t.primary table))
    (fun t => t.Follows I (t.term table)) (fun t => t.Follows I (t.expression table))
    (fun left t => t.Follows I (t.termTail table left))
    (fun left t => t.Follows I (t.expressionTail table left))
    ?primary ?term ?termTail ?expression ?expressionTail t
  case primary =>
    intro t ih trace holds
    rw [Tokenizer.primary_eq]
    refine course.next_andThen holds fun token taken behind => ?_
    obtain ⟨operand, inner⟩ := ih token taken
    have rest := course.primaryFrom operand inner (course.operand behind)
    unfold Step.Upholds at rest ⊢
    rwa [List.append_assoc] at rest
  case term =>
    intro t operand tail trace holds
    rw [Tokenizer.term_eq]
    exact andThen (operand _ holds) fun left read => tail left read _ (operand _ holds)
  case termTail =>
    intro left t ih trace holds
    rw [Tokenizer.termTail_eq]
    refine course.next_andThen holds fun token taken behind => ?_
    obtain ⟨operand, tail⟩ := ih token taken
    have operand := operand _ (course.leave behind)
    split
    next operator _ =>
      refine andThen operand fun right read => ?_
      refine andThen (settle operand _) fun value _ => ?_
      exact tail right value read _ (settle operand _)
    next => exact course.pushBack_andThen behind fun _ _ holds => settle holds _
  case expression =>
    intro t operand tail trace holds
    rw [Tokenizer.expression_eq]
    exact andThen (operand _ holds) fun left read => tail left read _ (operand _ holds)
  case expressionTail =>
    intro left t ih trace holds
    rw [Tokenizer.expressionTail_eq]
    refine course.next_andThen holds fun token taken behind => ?_
    obtain ⟨operand, tail⟩ := ih token taken
    have operand := operand _ (course.leave behind)
    split
    next operator _ => exact andThen operand fun right read => tail right _ read _ operand
    next => exact course.pushBack_andThen behind fun _ _ holds => settle holds _

theorem declaration (table : SymbolTable) (holds : I trace t) :
    (t.declaration table).Upholds I trace := by
  rw [Tokenizer.declaration_eq]
  refine course.next_andThen holds fun token _ behind => ?_
  split
  next =>
    refine course.next_andThen (course.leave behind) fun sign _ behind => ?_
    split
    next =>
      have inner := (course.grammar table _).2.2.1 _ (course.leave behind)
      refine andThen inner fun value _ => ?_
      refine andThen (settle inner _) fun declared _ => ?_
      exact course.declared (settle inner _)
    next => exact course.reject behind _
  next => exact course.reject behind _

theorem statement (table : SymbolTable) (holds : I trace t) :
    (t.statement table).Upholds I trace := by
  rw [Tokenizer.statement_eq]
  refine course.next_andThen holds fun token _ behind => ?_
  split
  next => exact course.declaration table (course.leave behind)
  next =>
    refine course.pushBack_andThen behind fun u _ holds => ?_
    have inner := (course.grammar table u).2.2.1 _ holds
    exact andThen inner fun value _ => settle inner _

/-- The first token of a statement has just been taken, if there is one. -/
theorem firstToken {t : Tokenizer} {trace : List Event} (holds : I trace t) :
    (∀ token, t.firstToken.result = .ok token →
      J token (trace ++ t.firstToken.trace) t.firstToken.tokens) ∧
    ∀ fault, t.firstToken.result = .error fault → t.firstToken.Upholds I trace := by
  obtain ⟨taken, broken⟩ := course.next holds
  rw [Tokenizer.firstToken_eq]
  cases h : t.next.result with
  | error fault =>
    rw [Step.andThen_of_error h]
    exact ⟨fun token same => (by cases same), fun _ _ => broken fault h⟩
  | ok token =>
    rw [Step.andThen_of_ok h]
    have behind := taken token h
    split
    next =>
      have less := Tokenizer.size_next_ok h
      have later := firstToken (course.leave behind)
      unfold Step.Upholds at later ⊢
      rwa [List.append_assoc] at later
    next =>
      refine ⟨fun other same => ?_, fun fault same => by cases same⟩
      cases same
      rwa [Step.after, Step.settle, List.append_nil]
termination_by t.size

theorem statementAt (table : SymbolTable) (holds : I trace t) :
    (Tokenizer.statementAt table t.firstToken).Upholds I trace := by
  obtain ⟨taken, broken⟩ := course.firstToken holds
  have first : t.firstToken.Upholds I trace := by
    cases h : t.firstToken.result with
    | ok token => exact course.leave (taken token h)
    | error fault => exact broken fault h
  refine andThen first fun token h => ?_
  exact course.pushBack_andThen (taken token h) fun _ _ holds => course.statement table holds

end Course

/-- A relation between tokenizers, along an account of what happened, that every single operation
of the evaluator keeps. -/
structure Journey (R : Tokenizer → List Event → Tokenizer → Prop) : Prop where
  stay (t : Tokenizer) : R t [] t
  trans {t u v : Tokenizer} {first second : List Event} :
    R t first u → R u second v → R t (first ++ second) v
  next (t : Tokenizer) : R t t.next.trace t.next.tokens
  pushBack (token : Token) (t : Tokenizer) :
    R t (t.pushBack token).trace (t.pushBack token).tokens
  operand (token : Token) (t : Tokenizer) : R t [.operand token] t
  declared (name : String) (value : Float) (t : Tokenizer) : R t [.declared name value] t

/-- A step leads from a tokenizer to the one it leaves. -/
def Step.Goes (R : Tokenizer → List Event → Tokenizer → Prop) (t : Tokenizer) (step : Step α) :
    Prop := R t step.trace step.tokens

namespace Journey

variable {R : Tokenizer → List Event → Tokenizer → Prop} (journey : Journey R)
include journey

/-- To be led to by a relation from some tokenizer holds all the way. -/
theorem course (t : Tokenizer) : Course (R t) fun _ => R t where
  next led := ⟨fun _ _ => journey.trans led (journey.next _),
    fun _ _ => journey.trans led (journey.next _)⟩
  leave led := led
  pushBack led := journey.trans led (journey.pushBack _ _)
  operand led := journey.trans led (journey.operand _ _)
  declared led := journey.trans led (journey.declared _ _ _)

theorem grammar (table : SymbolTable) (t : Tokenizer) : (t.primary table).Goes R t ∧
    (t.term table).Goes R t ∧ (t.expression table).Goes R t ∧
      (∀ left, (t.termTail table left).Goes R t) ∧
        ∀ left, (t.expressionTail table left).Goes R t := by
  have start := journey.stay t
  obtain ⟨primary, term, expression, termTail, expressionTail⟩ := (journey.course t).grammar table t
  exact ⟨primary _ start, term _ start, expression _ start, fun left => termTail left _ start,
    fun left => expressionTail left _ start⟩

theorem firstToken (t : Tokenizer) : t.firstToken.Goes R t := by
  obtain ⟨taken, broken⟩ := (journey.course t).firstToken (journey.stay t)
  cases h : t.firstToken.result with
  | ok token => exact taken token h
  | error fault => exact broken fault h

theorem statementAt (table : SymbolTable) (t : Tokenizer) :
    (Tokenizer.statementAt table t.firstToken).Goes R t :=
  (journey.course t).statementAt table (journey.stay t)

end Journey

end Calculator
