import Calculator.Proofs.ScriptSession

namespace Calculator

variable {α β : Type}

/-- A session recovers from a result, if it is a fault. -/
def Recoverable (result : Except Fault α) : Prop :=
  ∀ fault, result = .error fault → fault.recoverable = true

theorem recoverable_ok (a : α) : Recoverable (.ok a) := by
  intro fault h
  cases h

theorem recoverable_error {fault : Fault} (h : fault.recoverable = true) :
    Recoverable (.error fault : Except Fault α) := by
  intro other same
  cases same
  exact h

namespace Script

/-- A session recovers from every fault of a script. -/
def Clean (script : Script) : Prop := ∀ item ∈ script, Recoverable item

theorem clean_nil : Clean [] := List.forall_mem_nil _

theorem Clean.tail {first : Except Fault Token} {rest : Script} (h : Clean (first :: rest)) :
    Clean rest := (List.forall_mem_cons.mp h).2

theorem Clean.head {fault : Fault} {rest : Script} (h : Clean (.error fault :: rest)) :
    fault.recoverable = true := (List.forall_mem_cons.mp h).1 fault rfl

theorem Clean.token {rest : Script} (token : Token) (h : Clean rest) :
    Clean (.ok token :: rest) := List.forall_mem_cons.mpr ⟨recoverable_ok token, h⟩

theorem Clean.append {first second : Script} (h : Clean first) (g : Clean second) :
    Clean (first ++ second) := List.forall_mem_append.mpr ⟨h, g⟩

theorem clean_separator : Clean [separator] := clean_nil.token _

end Script

theorem apply_error {operator : ProductOperator} {left right : Float} {fault : Fault}
    (h : operator.apply left right = .error fault) : fault = .arithmetic .divisionByZero := by
  unfold ProductOperator.apply at h
  split at h
  next => cases h
  next =>
    split at h <;> cases h
    rfl
  next =>
    split at h <;> cases h
    rfl

theorem lookup_error {table : SymbolTable} {name : String} {fault : Fault}
    (h : table.lookup name = .error fault) : fault = .name .undefinedName name := by
  unfold SymbolTable.lookup at h
  split at h <;> cases h
  rfl

theorem declare_error {table : SymbolTable} {name : String} {value : Float} {fault : Fault}
    (h : table.declare name value = .error fault) : fault = .name .declaredTwice name := by
  unfold SymbolTable.declare at h
  split at h <;> cases h
  rfl

theorem recoverable_apply (operator : ProductOperator) (left right : Float) :
    Recoverable (operator.apply left right) := by
  intro fault h
  rw [apply_error h]
  rfl

theorem recoverable_lookup (table : SymbolTable) (name : String) :
    Recoverable (table.lookup name) := by
  intro fault h
  rw [lookup_error h]
  rfl

theorem recoverable_declare (table : SymbolTable) (name : String) (value : Float) :
    Recoverable (table.declare name value) := by
  intro fault h
  rw [declare_error h]
  rfl

/-- The faults with which an evaluation refuses a token. -/
inductive Refusal (token : Token) : Fault → Prop where
  | operand : Refusal token (.grammar .primaryExpected)
  | closing : Refusal token (.grammar .closingExpected)
  | division : Refusal token (.arithmetic .divisionByZero)
  | unknown {name : String} (same : token = .identifier name) :
    Refusal token (.name .undefinedName name)

theorem Refusal.recoverable {token : Token} {fault : Fault} (h : Refusal token fault) :
    fault.recoverable = true := by
  cases h <;> rfl

theorem settleFrames_error {value : Float} {frames : List Frame} {fault : Fault}
    (h : settleFrames value frames = .error fault) : fault = .arithmetic .divisionByZero := by
  induction frames generalizing value with
  | nil => cases h
  | cons frame frames ih =>
    cases frame with
    | negative => exact ih h
    | product left operator =>
      rw [settleFrames] at h
      cases applied : operator.apply left value with
      | ok total =>
        rw [applied] at h
        cases h
      | error other =>
        rw [applied] at h
        cases h
        exact apply_error applied
    | sum left operator => cases h
    | group => cases h

theorem refusal_of_settleMove {token : Token} {value : Float} {frames : List Frame} {fault : Fault}
    {givenBack : Bool} (h : settleMove value frames = .refuse fault givenBack) :
    Refusal token fault := by
  unfold settleMove at h
  split at h
  next => cases h
  next other settled =>
    cases h
    rw [settleFrames_error settled]
    exact .division

theorem refusal_of_operandMove {table : SymbolTable} {frames : List Frame} {token : Token}
    {fault : Fault} {givenBack : Bool}
    (h : operandMove table frames token = .refuse fault givenBack) : Refusal token fault := by
  unfold operandMove at h
  split at h
  next => cases h
  next => cases h
  next => cases h
  next => exact refusal_of_settleMove h
  next name =>
    split at h
    next => exact refusal_of_settleMove h
    next other unknown =>
      cases h
      rw [lookup_error unknown]
      exact .unknown rfl
  next =>
    cases h
    exact .operand

theorem refusal_of_closingMove {value : Float} {frames : List Frame} {token : Token}
    {fault : Fault} {givenBack : Bool}
    (h : closingMove value frames token = .refuse fault givenBack) : Refusal token fault := by
  unfold closingMove at h
  split at h
  next =>
    split at h
    next => exact refusal_of_settleMove h
    next =>
      cases h
      exact .closing
  next => cases h

theorem refusal_of_move {table : SymbolTable} {phase : Phase} {frames : List Frame}
    {token : Token} {fault : Fault} {givenBack : Bool}
    (h : phase.move table frames token = .refuse fault givenBack) : Refusal token fault := by
  cases phase with
  | operand => exact refusal_of_operandMove h
  | operator value =>
    rw [Phase.move, operatorMove] at h
    split at h
    next => cases h
    next =>
      dsimp only at h
      split at h
      next => cases h
      next => exact refusal_of_closingMove h

/-- A reading fails with a fault that a session recovers from, or at the end of input. -/
def Reading.Mild (reading : Reading α) : Prop :=
  (∀ fault, reading.result = .error fault →
    fault.recoverable = true ∨ fault = .endOfInput ∧ reading.rest = []) ∧
      Script.Clean reading.rest

theorem Reading.mild_andThen {reading : Reading α} {f : α → Script → Reading β}
    (first : reading.Mild) (second : ∀ a rest, Script.Clean rest → (f a rest).Mild) :
    (reading.andThen f).Mild := by
  obtain ⟨result, rest⟩ := reading
  cases result with
  | ok a => exact second a rest first.2
  | error fault =>
    exact ⟨fun other h => first.1 other (by cases h; rfl), first.2⟩

namespace Script

variable {script rest : Script}

theorem mild_settle {result : Except Fault α} (recoverable : Recoverable result)
    (clean : Clean rest) : (⟨result, rest⟩ : Reading α).Mild :=
  ⟨fun fault h => Or.inl (recoverable fault h), clean⟩

theorem mild_ok (a : α) (clean : Clean rest) : (⟨.ok a, rest⟩ : Reading α).Mild :=
  mild_settle (recoverable_ok a) clean

theorem mild_reject (token : Token) (cause : GrammarFault) (clean : Clean rest) :
    (reject token cause rest : Reading α).Mild :=
  mild_settle (recoverable_error rfl) (clean.token token)

theorem mild_error {fault : Fault} (clean : Clean (.error fault :: rest)) :
    (⟨.error fault, if fault.recoverable then rest else .error fault :: rest⟩ :
      Reading α).Mild := by
  rw [if_pos clean.head]
  exact mild_settle (recoverable_error clean.head) clean.tail

theorem mild_end : (⟨.error .endOfInput, []⟩ : Reading α).Mild := by
  refine ⟨fun fault h => ?_, clean_nil⟩
  cases h
  exact Or.inr ⟨rfl, rfl⟩

theorem mild_next (clean : Clean script) : (next script).Mild := by
  match script with
  | [] => exact mild_end
  | .ok token :: rest => exact mild_ok token clean.tail
  | .error fault :: rest => exact mild_error clean

theorem mild_evaluate (table : SymbolTable) (phase : Phase) (frames : List Frame)
    (clean : Clean script) : (evaluate table phase frames script).Mild := by
  induction script generalizing phase frames with
  | nil => exact mild_end
  | cons first rest ih =>
    cases first with
    | error fault => exact mild_error clean
    | ok token =>
      rw [evaluate_cons]
      cases move : phase.move table frames token with
      | goOn after later => exact ih after later clean.tail
      | accept value => exact mild_ok value clean
      | refuse fault givenBack =>
        refine mild_settle (recoverable_error (refusal_of_move move).recoverable) ?_
        cases givenBack with
        | true => exact clean
        | false => exact clean.tail

theorem mild_declaration (table : SymbolTable) (clean : Clean script) :
    (declaration table script).Mild := by
  refine Reading.mild_andThen (mild_next clean) fun token rest clean => ?_
  split
  next =>
    refine Reading.mild_andThen (mild_next clean) fun sign rest clean => ?_
    split
    next =>
      refine Reading.mild_andThen (mild_evaluate table .operand [] clean) fun value rest clean => ?_
      refine Reading.mild_andThen (mild_settle (recoverable_declare table _ value) clean)
        fun declared rest clean => ?_
      exact mild_ok _ clean
    next => exact mild_reject _ _ clean
  next => exact mild_reject _ _ clean

theorem mild_statement (table : SymbolTable) (clean : Clean script) :
    (statement table script).Mild := by
  refine Reading.mild_andThen (mild_next clean) fun token rest clean => ?_
  split
  next => exact mild_declaration table clean
  next =>
    refine Reading.mild_andThen (mild_evaluate table .operand [] (clean.token _))
      fun value rest clean => ?_
    exact mild_ok _ clean

theorem mild_firstToken (clean : Clean script) : (firstToken script).Mild := by
  induction script with
  | nil => exact mild_end
  | cons first rest ih =>
    unfold firstToken
    split
    next h =>
      cases h
      exact ih clean.tail
    next => exact mild_next clean

theorem mild_statementAt (table : SymbolTable) (clean : Clean script) :
    (statementAt table (firstToken script)).Mild :=
  Reading.mild_andThen (mild_firstToken clean) fun token _ clean =>
    mild_statement table (clean.token token)

theorem clean_dropThroughSeparator (clean : Clean script) : Clean (dropThroughSeparator script) := by
  induction script with
  | nil => exact clean
  | cons first rest ih =>
    unfold dropThroughSeparator
    split
    next h => cases h
    next h =>
      cases h
      exact clean.tail
    next h =>
      cases h
      exact ih clean.tail

end Script

end Calculator
