import Calculator.Evaluator

namespace Calculator

variable {α β : Type}

/-- The tokens and faults of a text, in order. -/
abbrev Script := List (Except Fault Token)

/-- What reading a script comes to, and what it leaves of the script. -/
structure Reading (α : Type) where
  result : Except Fault α
  rest : Script

/-- Goes on from the result of a reading, unless a fault broke it off. -/
def Reading.andThen (reading : Reading α) (f : α → Script → Reading β) : Reading β :=
  match reading.result with
  | .ok a => f a reading.rest
  | .error fault => ⟨.error fault, reading.rest⟩

@[simp] theorem Reading.andThen_ok (a : α) (rest : Script) (f : α → Script → Reading β) :
    (⟨.ok a, rest⟩ : Reading α).andThen f = f a rest := rfl

@[simp] theorem Reading.andThen_error (fault : Fault) (rest : Script) (f : α → Script → Reading β) :
    (⟨.error fault, rest⟩ : Reading α).andThen f = ⟨.error fault, rest⟩ := rfl

/-- What waits for the value of an operand. -/
inductive Frame where
  | negative
  | product (left : Float) (operator : ProductOperator)
  | sum (left : Float) (operator : SumOperator)
  | group

/-- Whether an operand comes next, or there is one with a value. -/
inductive Phase where
  | operand
  | operator (value : Float)

/-- What a token does to an evaluation: it goes on, or it has its value and gives the token back,
or the token is refused. -/
inductive Move where
  | goOn (phase : Phase) (frames : List Frame)
  | accept (value : Float)
  | refuse (fault : Fault) (givenBack : Bool)

/-- Signs and factors that wait for a primary take its value at once. -/
def settleFrames (value : Float) : List Frame → Except Fault (Float × List Frame)
  | .negative :: frames => settleFrames (-value) frames
  | .product left operator :: frames => (operator.apply left value).map fun total => (total, frames)
  | frames => .ok (value, frames)

/-- A term that waits for the next one takes its value. -/
def joinTerm (value : Float) : List Frame → Float × List Frame
  | .sum left operator :: frames => (operator.apply left value, frames)
  | frames => (value, frames)

/-- A primary has a value. -/
def settleMove (value : Float) (frames : List Frame) : Move :=
  match settleFrames value frames with
  | .ok (total, frames) => .goOn (.operator total) frames
  | .error fault => .refuse fault false

/-- What a token does where an operand comes next. -/
def operandMove (table : SymbolTable) (frames : List Frame) : Token → Move
  | .punct .leftParen => .goOn .operand (.group :: frames)
  | .punct .minus => .goOn .operand (.negative :: frames)
  | .punct .plus => .goOn .operand frames
  | .number value => settleMove value frames
  | .identifier name =>
    match table.lookup name with
    | .ok value => settleMove value frames
    | .error fault => .refuse fault false
  | _ => .refuse (.grammar .primaryExpected) true

/-- What a token does that joins neither factors nor terms. -/
def closingMove (value : Float) (frames : List Frame) (token : Token) : Move :=
  match frames with
  | .group :: frames =>
    if token = .punct .rightParen then settleMove value frames
    else .refuse (.grammar .closingExpected) true
  | _ => .accept value

/-- What a token does behind an operand. -/
def operatorMove (value : Float) (frames : List Frame) (token : Token) : Move :=
  match ProductOperator.ofToken? token with
  | some operator => .goOn .operand (.product value operator :: frames)
  | none =>
    let (value, frames) := joinTerm value frames
    match SumOperator.ofToken? token with
    | some operator => .goOn .operand (.sum value operator :: frames)
    | none => closingMove value frames token

def Phase.move (table : SymbolTable) (frames : List Frame) (token : Token) : Phase → Move
  | .operand => operandMove table frames token
  | .operator value => operatorMove value frames token

namespace Script

abbrev separator : Except Fault Token := .ok (.punct .separator)

/-- The next token. A fault that nothing recovers from stays. -/
def next : Script → Reading Token
  | [] => ⟨.error .endOfInput, []⟩
  | .ok token :: rest => ⟨.ok token, rest⟩
  | .error fault :: rest =>
    ⟨.error fault, if fault.recoverable then rest else .error fault :: rest⟩

/-- Evaluates token after token, with what waits for the values in a list of its own. -/
def evaluate (table : SymbolTable) (phase : Phase) (frames : List Frame) : Script → Reading Float
  | [] => ⟨.error .endOfInput, []⟩
  | .error fault :: rest =>
    ⟨.error fault, if fault.recoverable then rest else .error fault :: rest⟩
  | .ok token :: rest =>
    match phase.move table frames token with
    | .goOn phase frames => evaluate table phase frames rest
    | .accept value => ⟨.ok value, .ok token :: rest⟩
    | .refuse fault givenBack =>
      ⟨.error fault, if givenBack then .ok token :: rest else rest⟩

def expression (table : SymbolTable) (script : Script) : Reading Float :=
  evaluate table .operand [] script

/-- A token that cannot stand where it does is given back. -/
def reject (token : Token) (cause : GrammarFault) (rest : Script) : Reading α :=
  ⟨.error (.grammar cause), .ok token :: rest⟩

def declaration (table : SymbolTable) (script : Script) : Reading Evaluated :=
  (next script).andThen fun token rest =>
    match token with
    | .identifier name =>
      (next rest).andThen fun token rest =>
        match token with
        | .punct .equal =>
          (expression table rest).andThen fun value rest =>
            (⟨table.declare name value, rest⟩ : Reading SymbolTable).andThen fun table rest =>
              ⟨.ok ⟨value, table⟩, rest⟩
        | token => reject token .equalExpected rest
    | token => reject token .nameExpected rest

def statement (table : SymbolTable) (script : Script) : Reading Evaluated :=
  (next script).andThen fun token rest =>
    match token with
    | .keyword .declare => declaration table rest
    | token =>
      (expression table (.ok token :: rest)).andThen fun value rest => ⟨.ok ⟨value, table⟩, rest⟩

/-- The next token that is not a separator. -/
def firstToken : Script → Reading Token
  | .ok (.punct .separator) :: rest => firstToken rest
  | script => next script

/-- What is left behind the next separator. -/
def dropThroughSeparator : Script → Script
  | [] => []
  | .ok (.punct .separator) :: rest => rest
  | _ :: rest => dropThroughSeparator rest

theorem dropThroughSeparator_of_ne {first : Except Fault Token}
    (other : first ≠ .ok (.punct .separator)) (rest : Script) :
    dropThroughSeparator (first :: rest) = dropThroughSeparator rest := by
  rw [dropThroughSeparator]
  exact other

end Script

end Calculator
