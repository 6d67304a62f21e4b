import Calculator.Proofs.EvaluatorJourney
import Calculator.Proofs.FaultCauses
import Calculator.Proofs.ScriptEvaluation
import Calculator.Proofs.UsableNames

namespace Calculator

variable {α β : Type}

/-- The name that is read at an event, from the text or from the slot. -/
def Event.name? : Event → Option String
  | .token (.identifier name) | .tokenAgain (.identifier name) => some name
  | _ => none

/-- The names among the tokens that are read along an account of what happened. -/
def mentions (trace : List Event) : List String := trace.filterMap Event.name?

theorem mem_mentions_append {name : String} {trace more : List Event} :
    name ∈ mentions (trace ++ more) ↔ name ∈ mentions trace ∨ name ∈ mentions more := by
  rw [mentions, List.filterMap_append, List.mem_append]
  rfl

theorem Tokenizer.mem_mentions_next {t : Tokenizer} {name : String} :
    name ∈ mentions t.next.trace ↔ t.next.result = .ok (.identifier name) := by
  unfold next
  split
  next token held => cases token <;> simp [mentions, Event.name?, eq_comm]
  next free =>
    split
    next token source read => cases token <;> simp [mentions, Event.name?, eq_comm]
    next => simp [mentions]

theorem mentions_pushBack (token : Token) (t : Tokenizer) :
    mentions (t.pushBack token).trace = [] := by
  unfold Tokenizer.pushBack
  split <;> rfl

/-- Two tables know the same of certain names. -/
def SymbolTable.AgreesOn (table other : SymbolTable) (names : List String) : Prop :=
  ∀ name ∈ names, table.value? name = other.value? name

namespace SymbolTable

variable {table other : SymbolTable} {names more : List String} {name : String}

theorem AgreesOn.mono (h : table.AgreesOn other names) (part : more ⊆ names) :
    table.AgreesOn other more := fun name mem => h name (part mem)

theorem AgreesOn.lookup (h : table.AgreesOn other names) (mem : name ∈ names) :
    other.lookup name = table.lookup name := by
  rw [SymbolTable.lookup, SymbolTable.lookup, h name mem]

theorem isDeclared_eq (table : SymbolTable) (name : String) :
    table.isDeclared name = (table.value? name).isSome := by
  rw [isDeclared, value?, Option.isSome_map, Bool.eq_iff_iff, List.any_eq_true, List.find?_isSome]

theorem AgreesOn.isDeclared (h : table.AgreesOn other names) (mem : name ∈ names) :
    other.isDeclared name = table.isDeclared name := by
  rw [isDeclared_eq, isDeclared_eq, h name mem]

end SymbolTable

/-- A step that is taken on one table is the same on another that knows the same of the names that
are read on the way. -/
def Step.Steady (table other : SymbolTable) (first second : Step α) : Prop :=
  table.AgreesOn other (mentions first.trace) → second = first

namespace Step

variable {table other : SymbolTable}

theorem steady_of_eq {first second : Step α} (same : second = first) :
    Steady table other first second := fun _ => same

/-- What comes behind may rely on the names that were read before. -/
theorem steady_andThen {first second : Step α} {f g : α → Tokenizer → Step β}
    (start : Steady table other first second)
    (behind : ∀ a, first.result = .ok a → table.AgreesOn other (mentions first.trace) →
      Steady table other (f a first.tokens) (g a first.tokens)) :
    Steady table other (first.andThen f) (second.andThen g) := by
  intro agrees
  cases h : first.result with
  | error fault =>
    rw [andThen_of_error h] at agrees ⊢
    rw [start agrees, andThen_of_error h]
  | ok a =>
    rw [andThen_of_ok h] at agrees ⊢
    have before := agrees.mono fun name mem => mem_mentions_append.mpr (Or.inl mem)
    have later := agrees.mono fun name mem => mem_mentions_append.mpr (Or.inr mem)
    rw [start before, andThen_of_ok h, behind a h before later]

theorem steady_after {first second : Step α} (h : Steady table other first second)
    (trace : List Event) : Steady table other (first.after trace) (second.after trace) := by
  intro agrees
  rw [h (agrees.mono fun name mem => mem_mentions_append.mpr (Or.inr mem))]

end Step

namespace Tokenizer

open Step

variable {table other : SymbolTable} {t : Tokenizer}

theorem steady_primaryFrom {token : Token}
    (knows : ∀ name, token = .identifier name → other.lookup name = table.lookup name)
    (operand : Steady table other (t.primary table) (t.primary other))
    (inner : Steady table other (t.expression table) (t.expression other)) :
    Steady table other (primaryFrom table token t) (primaryFrom other token t) := by
  unfold primaryFrom
  split
  next => exact steady_andThen inner fun _ _ _ => steady_of_eq rfl
  next => exact steady_andThen operand fun _ _ _ => steady_of_eq rfl
  next => exact operand
  next => exact steady_of_eq rfl
  next name => exact steady_of_eq (by rw [knows name rfl])
  next => exact steady_of_eq rfl

/-- Each production is evaluated alike on tables that know the same of the names it reads. -/
theorem steady_grammar (table other : SymbolTable) (t : Tokenizer) :
    Steady table other (t.primary table) (t.primary other) ∧
    Steady table other (t.term table) (t.term other) ∧
    Steady table other (t.expression table) (t.expression other) ∧
    (∀ left, Steady table other (t.termTail table left) (t.termTail other left)) ∧
    ∀ left, Steady table other (t.expressionTail table left) (t.expressionTail other left) := by
  refine @grammar_induction table
    (fun t => Steady table other (t.primary table) (t.primary other))
    (fun t => Steady table other (t.term table) (t.term other))
    (fun t => Steady table other (t.expression table) (t.expression other))
    (fun left t => Steady table other (t.termTail table left) (t.termTail other left))
    (fun left t => Steady table other (t.expressionTail table left) (t.expressionTail other left))
    ?primary ?term ?termTail ?expression ?expressionTail t
  case primary =>
    intro t ih
    rw [primary_eq, primary_eq]
    refine steady_andThen (steady_of_eq rfl) fun token taken agrees => ?_
    obtain ⟨operand, inner⟩ := ih token taken
    refine steady_after (steady_primaryFrom (fun name same => ?_) operand inner) _
    subst same
    exact agrees.lookup (mem_mentions_next.mpr taken)
  case term =>
    intro t operand tail
    rw [term_eq, term_eq]
    exact steady_andThen operand fun left read _ => tail left read
  case termTail =>
    intro left t ih
    rw [termTail_eq, termTail_eq]
    refine steady_andThen (steady_of_eq rfl) fun token taken _ => ?_
    obtain ⟨operand, tail⟩ := ih token taken
    split
    next operator _ =>
      refine steady_andThen operand fun right read _ => ?_
      exact steady_andThen (steady_of_eq rfl) fun value _ _ => tail right value read
    next => exact steady_of_eq rfl
  case expression =>
    intro t operand tail
    rw [expression_eq, expression_eq]
    exact steady_andThen operand fun left read _ => tail left read
  case expressionTail =>
    intro left t ih
    rw [expressionTail_eq, expressionTail_eq]
    refine steady_andThen (steady_of_eq rfl) fun token taken _ => ?_
    obtain ⟨operand, tail⟩ := ih token taken
    split
    next operator _ => exact steady_andThen operand fun right read _ => tail right _ read
    next => exact steady_of_eq rfl

end Tokenizer

/-- A value that a statement comes to on a table, which gets an entry if a name is declared. -/
def Evaluated.on (table : SymbolTable) (declares : Option String) (value : Float) : Evaluated :=
  ⟨value, ⟨table.entries ++ (declares.map fun name => ⟨name, value⟩).toList⟩⟩

theorem Evaluated.on_none (table : SymbolTable) (value : Float) :
    Evaluated.on table none value = ⟨value, table⟩ := by
  rw [Evaluated.on, Option.map_none, Option.toList_none, List.append_nil]

/-- Two statements are the same but for the tables that they are evaluated on, which get the same
entry, if any. -/
structure Step.SameOn (table other : SymbolTable) (first second : Step Evaluated) : Prop where
  tokens : second.tokens = first.tokens
  trace : second.trace = first.trace
  result : ∃ (value : Except Fault Float) (declares : Option String),
    first.result = value.map (Evaluated.on table declares) ∧
      second.result = value.map (Evaluated.on other declares)

/-- A statement that is evaluated on one table is the same on another that knows the same of the
names that are read on the way. -/
def Step.SteadyOn (table other : SymbolTable) (first second : Step Evaluated) : Prop :=
  table.AgreesOn other (mentions first.trace) → SameOn table other first second

namespace Step

variable {table other : SymbolTable}

theorem sameOn_error (fault : Fault) (t : Tokenizer) (trace : List Event) :
    SameOn table other ⟨.error fault, t, trace⟩ ⟨.error fault, t, trace⟩ :=
  ⟨rfl, rfl, .error fault, none, rfl, rfl⟩

theorem SameOn.after {first second : Step Evaluated} (h : SameOn table other first second)
    (trace : List Event) : SameOn table other (first.after trace) (second.after trace) :=
  ⟨h.tokens, congrArg (trace ++ ·) h.trace, h.result⟩

theorem steadyOn_andThen {first second : Step α} {f g : α → Tokenizer → Step Evaluated}
    (start : Steady table other first second)
    (behind : ∀ a, first.result = .ok a → table.AgreesOn other (mentions first.trace) →
      SteadyOn table other (f a first.tokens) (g a first.tokens)) :
    SteadyOn table other (first.andThen f) (second.andThen g) := by
  intro agrees
  cases h : first.result with
  | error fault =>
    rw [andThen_of_error h] at agrees ⊢
    rw [start agrees, andThen_of_error h]
    exact sameOn_error fault _ _
  | ok a =>
    rw [andThen_of_ok h] at agrees ⊢
    have before := agrees.mono fun name mem => mem_mentions_append.mpr (Or.inl mem)
    have later := agrees.mono fun name mem => mem_mentions_append.mpr (Or.inr mem)
    rw [start before, andThen_of_ok h]
    exact (behind a h before later).after _

theorem steadyOn_reject {t : Tokenizer} (token : Token) (cause : GrammarFault) :
    SteadyOn table other (t.reject token cause) (t.reject token cause) :=
  steadyOn_andThen (steady_of_eq rfl) fun _ _ _ _ => sameOn_error _ _ _

/-- A name is free on both tables or on none of them. -/
theorem sameOn_declare {name : String} (value : Float) (t : Tokenizer)
    (same : other.isDeclared name = table.isDeclared name) :
    SameOn table other
      ((settle (table.declare name value) t).andThen fun table rest =>
        (settle (.ok ⟨value, table⟩) rest).after [.declared name value])
      ((settle (other.declare name value) t).andThen fun table rest =>
        (settle (.ok ⟨value, table⟩) rest).after [.declared name value]) := by
  unfold SymbolTable.declare
  rw [same]
  cases table.isDeclared name with
  | true => exact sameOn_error _ _ _
  | false => exact ⟨rfl, rfl, .ok value, some name, rfl, rfl⟩

end Step

namespace Tokenizer

open Step

theorem steadyOn_declaration (table other : SymbolTable) (t : Tokenizer) :
    SteadyOn table other (t.declaration table) (t.declaration other) := by
  rw [declaration_eq, declaration_eq]
  refine steadyOn_andThen (steady_of_eq rfl) fun token taken known => ?_
  split
  next name =>
    -- The name is read here, and whether it is free is asked behind the expression.
    have free := known.isDeclared (mem_mentions_next.mpr taken)
    refine steadyOn_andThen (steady_of_eq rfl) fun sign _ _ => ?_
    split
    next =>
      have inner := (steady_grammar table other t.next.tokens.next.tokens).2.2.1
      exact steadyOn_andThen inner fun value _ _ _ => sameOn_declare value _ free
    next => exact steadyOn_reject _ _
  next => exact steadyOn_reject _ _

theorem steadyOn_statement (table other : SymbolTable) (t : Tokenizer) :
    SteadyOn table other (t.statement table) (t.statement other) := by
  rw [statement_eq, statement_eq]
  refine steadyOn_andThen (steady_of_eq rfl) fun token _ _ => ?_
  split
  next => exact steadyOn_declaration table other _
  next =>
    refine steadyOn_andThen (steady_of_eq rfl) fun _ _ _ => ?_
    have inner := (steady_grammar table other (t.next.tokens.pushBack token).tokens).2.2.1
    refine steadyOn_andThen inner fun value _ _ _ => ⟨rfl, rfl, .ok value, none, ?_, ?_⟩
    · exact congrArg Except.ok (Evaluated.on_none table value).symm
    · exact congrArg Except.ok (Evaluated.on_none other value).symm

/-- What an account mentions, and what is still to come, is on a list of tokens. -/
def Lists (script : Script) (trace : List Event) (t : Tokenizer) : Prop :=
  (∀ name ∈ mentions trace, .ok (.identifier name) ∈ script) ∧ t.stream ⊆ script

theorem Lists.silent {script : Script} {trace more : List Event} {t u : Tokenizer}
    (h : Lists script trace t) (silent : mentions more = []) (listed : u.stream ⊆ script) :
    Lists script (trace ++ more) u := by
  refine ⟨fun name mem => ?_, listed⟩
  rcases mem_mentions_append.mp mem with before | here
  · exact h.1 name before
  · rw [silent] at here
    cases here

theorem stream_next_subset (t : Tokenizer) : t.next.tokens.stream ⊆ t.stream := by
  have rest := (Script.keeps_next t.stream).rest
  rwa [← reading_next] at rest

theorem course_lists (script : Script) : Course (Lists script)
    fun token trace t => Lists script trace t ∧ t.held = none ∧ .ok token ∈ script where
  next := by
    intro trace t ⟨before, listed⟩
    have onward : Lists script (trace ++ t.next.trace) t.next.tokens := by
      refine ⟨fun name mem => ?_, fun _ later => listed (stream_next_subset t later)⟩
      rcases mem_mentions_append.mp mem with earlier | here
      · exact before name earlier
      · rw [stream_of_ok (mem_mentions_next.mp here)] at listed
        exact listed List.mem_cons_self
    refine ⟨fun token taken => ⟨onward, held_next t, ?_⟩, fun _ _ => onward⟩
    rw [stream_of_ok taken] at listed
    exact listed List.mem_cons_self
  leave holds := holds.1
  pushBack := by
    intro token trace t ⟨holds, free, mem⟩
    refine holds.silent (mentions_pushBack token t) ?_
    rw [stream_pushBack token free]
    exact List.cons_subset.mpr ⟨mem, holds.2⟩
  operand holds := ⟨holds.1.silent rfl holds.1.2, holds.2⟩
  declared holds := holds.silent rfl holds.2

/-- Only names of the text are read. -/
theorem Follows.mentions {step : Step α} {t : Tokenizer} (h : t.Follows (Lists t.stream) step)
    {name : String} (mem : name ∈ mentions step.trace) : .ok (.identifier name) ∈ t.stream :=
  (h [] ⟨List.forall_mem_nil _, List.Subset.refl _⟩).1 name mem

end Tokenizer

/-- What a text comes to depends on the names that it mentions. On tables that know the same of all
names that are read, a primary, a term and an expression are the same step; and a statement leaves
the same tokenizer, and comes to the same fault, or to the same value and the same entry for the
name that it declares. All names that are read are among the tokens of the text. -/
theorem evaluation_depends_on_mentions (table other : SymbolTable) (t : Tokenizer) :
    (table.AgreesOn other (mentions (t.primary table).trace) →
      t.primary other = t.primary table) ∧
    (table.AgreesOn other (mentions (t.term table).trace) → t.term other = t.term table) ∧
    (table.AgreesOn other (mentions (t.expression table).trace) →
      t.expression other = t.expression table) ∧
    (table.AgreesOn other (mentions (t.statement table).trace) →
      Step.SameOn table other (t.statement table) (t.statement other)) ∧
    ∀ name, name ∈ mentions (t.primary table).trace ∨ name ∈ mentions (t.term table).trace ∨
      name ∈ mentions (t.expression table).trace ∨ name ∈ mentions (t.statement table).trace →
        .ok (.identifier name) ∈ t.stream := by
  obtain ⟨primary, term, expression, _⟩ := Tokenizer.steady_grammar table other t
  refine ⟨primary, term, expression, Tokenizer.steadyOn_statement table other t, ?_⟩
  have course := Tokenizer.course_lists t.stream
  obtain ⟨inPrimary, inTerm, inExpression, _⟩ := course.grammar table t
  rintro name (mem | mem | mem | mem)
  · exact inPrimary.mentions mem
  · exact inTerm.mentions mem
  · exact inExpression.mentions mem
  · have inStatement : t.Follows (Tokenizer.Lists t.stream) (t.statement table) :=
      fun _ holds => course.statement table holds
    exact inStatement.mentions mem

/-- A declaration does not depend on names that it does not mention, nor on the order of the
others. -/
theorem evaluation_depends_on_mentions_reordered :
    let t := Tokenizer.ofSource {} (.ofBytes (encodeUtf8 "let a=pi;") none)
    let table := SymbolTable.withConstants
    let other : SymbolTable := ⟨[⟨"x", 1⟩, ⟨"pi", 3.141592653589793⟩]⟩
    (table.AgreesOn other (mentions (t.primary table).trace) ∧
      t.primary other = t.primary table) ∧
    (table.AgreesOn other (mentions (t.term table).trace) ∧ t.term other = t.term table) ∧
    (table.AgreesOn other (mentions (t.expression table).trace) ∧
      t.expression other = t.expression table) ∧
    table.AgreesOn other (mentions (t.statement table).trace) ∧
    Step.SameOn table other (t.statement table) (t.statement other) ∧
    (t.statement other).result = .ok (Evaluated.on other (some "a") 3.141592653589793) := by
  intro t table other
  have keyword : Lexeme {} "let".toList " a=pi;".toList (.ok (.keyword .declare)) :=
    .declareWord (.of_isWord ' ' rfl rfl) rfl
  have target : Lexeme {} "a".toList "=pi;".toList (.ok (.identifier "a")) :=
    .identifier (.of_isWord '=' rfl rfl) (by decide) (by decide)
  have equal : Lexeme {} "=".toList "pi;".toList (.ok (.punct .equal)) := .symbol .equal _
  have operand : Lexeme {} "pi".toList ";".toList (.ok (.identifier "pi")) :=
    .identifier (.of_isWord ';' rfl rfl) (by decide) (by decide)
  have close : Lexeme {} ";".toList [] (.ok (.punct .separator)) := .symbol .separator _
  have noBlank : ∀ c ∈ ([] : List Char), isWhitespace c := List.forall_mem_nil _
  have blank : ∀ c ∈ [' '], isWhitespace c := List.forall_mem_singleton.mpr rfl
  have cut : Segmented {} "let a=pi;".toList _ :=
    .next noBlank keyword <| .next blank target <| .next noBlank equal <|
      .next noBlank operand <| .next noBlank close (.done noBlank)
  have listed : t.stream = _ := scriptOf_of_segmented (Dialect.check_eq_ok.mp rfl) cut
  have statement := congrArg Reading.result (Tokenizer.reading_statement other t)
  rw [listed] at statement
  obtain ⟨primary, term, expression, whole, names⟩ := evaluation_depends_on_mentions table other t
  have agrees : ∀ trace : List Event, (∀ name ∈ mentions trace, .ok (.identifier name) ∈ t.stream) →
      table.AgreesOn other (mentions trace) := by
    intro trace known name mem
    have among := known name mem
    simp only [listed, List.map_cons, List.map_nil, List.mem_cons, Except.ok.injEq, reduceCtorEq,
      Token.identifier.injEq, List.not_mem_nil, or_false, false_or] at among
    rcases among with rfl | rfl <;> rfl
  have inPrimary := agrees _ fun name mem => names name (Or.inl mem)
  have inTerm := agrees _ fun name mem => names name (Or.inr (Or.inl mem))
  have inExpression := agrees _ fun name mem => names name (Or.inr (Or.inr (Or.inl mem)))
  have inStatement := agrees _ fun name mem => names name (Or.inr (Or.inr (Or.inr mem)))
  exact ⟨⟨inPrimary, primary inPrimary⟩, ⟨inTerm, term inTerm⟩,
    ⟨inExpression, expression inExpression⟩, inStatement, whole inStatement, statement⟩

end Calculator
