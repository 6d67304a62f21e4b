import Calculator.Proofs.FaultCauses
import Calculator.Proofs.FaultOrigin
import Calculator.Proofs.TreeBuilding
import Calculator.Proofs.UnfinishedTree

namespace Calculator

variable {α β κ τ σ : Type}

namespace Step

/-- A step has a result, and leaves a certain tokenizer unless it is a fault. -/
def Yields (step : Step α) (result : Except Fault α) (left : Tokenizer) : Prop :=
  step.result = result ∧ ∀ a, result = .ok a → step.tokens = left

/-- A step fails as the work fails that comes first, and otherwise with a certain fault, leaving a
certain tokenizer. -/
def BreaksOff (step : Step α) (work : Except Fault Unit) (fault : Fault) (left : Tokenizer) :
    Prop :=
  step.result = (work.bind fun _ => .error fault) ∧ (work = .ok () → step.tokens = left)

variable {step : Step α} {result : Except Fault α} {work : Except Fault Unit} {fault : Fault}
  {left last : Tokenizer}

theorem yields_settle (result : Except Fault α) (t : Tokenizer) :
    (settle result t).Yields result t := ⟨rfl, fun _ _ => rfl⟩

theorem Yields.andThen {f : α → Tokenizer → Step β} {g : α → Except Fault β}
    (first : step.Yields result left)
    (second : ∀ a, (f a left).Yields (g a) last) :
    (step.andThen f).Yields (result.bind g) last := by
  obtain ⟨same, tokens⟩ := first
  cases result with
  | error other =>
    rw [andThen_of_error same]
    exact ⟨rfl, fun b h => by cases h⟩
  | ok a =>
    rw [andThen_of_ok same, tokens a rfl]
    exact second a

theorem Yields.keep {f : α → Tokenizer → Step α} (first : step.Yields result left)
    (second : ∀ a, (f a left).Yields (.ok a) last) : (step.andThen f).Yields result last := by
  have whole := first.andThen second
  cases result <;> exact whole

theorem Yields.breaksOff {f : α → Tokenizer → Step β} {g : α → Except Fault Unit}
    (first : step.Yields result left)
    (second : ∀ a, (f a left).BreaksOff (g a) fault last) :
    (step.andThen f).BreaksOff (result.bind g) fault last := by
  obtain ⟨same, tokens⟩ := first
  cases result with
  | error other =>
    rw [andThen_of_error same]
    exact ⟨rfl, fun h => by cases h⟩
  | ok a =>
    rw [andThen_of_ok same, tokens a rfl]
    exact second a

theorem BreaksOff.andThen {f : α → Tokenizer → Step β} (first : step.BreaksOff work fault left) :
    (step.andThen f).BreaksOff work fault left := by
  obtain ⟨same, tokens⟩ := first
  cases work with
  | error other =>
    rw [andThen_of_error same]
    exact ⟨rfl, fun h => by cases h⟩
  | ok =>
    rw [andThen_of_error same]
    exact ⟨rfl, tokens⟩

theorem Yields.next {f : Token → Tokenizer → Step α} {t : Tokenizer} {token : Token}
    (taken : t.next.result = .ok token) (h : (f token t.next.tokens).Yields result left) :
    (t.next.andThen f).Yields result left := by
  rw [andThen_of_ok taken]
  exact h

theorem BreaksOff.next {f : Token → Tokenizer → Step α} {t : Tokenizer} {token : Token}
    (taken : t.next.result = .ok token) (h : (f token t.next.tokens).BreaksOff work fault left) :
    (t.next.andThen f).BreaksOff work fault left := by
  rw [andThen_of_ok taken]
  exact h

theorem breaksOff_reject {t : Tokenizer} (token : Token) (cause : GrammarFault)
    (free : t.held = none) : (t.reject token cause : Step α).BreaksOff (.ok ()) (.grammar cause)
      (t.pushBack token).tokens := by
  rw [Tokenizer.reject, Tokenizer.pushBack_of_free token free]
  exact ⟨rfl, fun _ => rfl⟩

end Step

/-- What stands in the way of a tree: the next token is refused, and is given back, or there is no
next token. -/
inductive Obstacle (refuses : Token → Prop) (ahead : Script) : Fault → Tokenizer → Prop where
  | refused {left : Tokenizer} {token : Token} {cause : GrammarFault} (refusal : refuses token)
    (held : left.held = some token) (listed : left.stream = ahead) :
    Obstacle refuses ahead (.grammar cause) left
  | missing {t : Tokenizer} {fault : Fault} (listed : t.stream = ahead)
    (fails : t.next.result = .error fault) : Obstacle refuses ahead fault t.next.tokens

theorem Obstacle.mono {refuses more : Token → Prop} {ahead : Script} {fault : Fault}
    {left : Tokenizer} (h : Obstacle refuses ahead fault left)
    (refusal : ∀ token behind, ahead = .ok token :: behind → refuses token → more token) :
    Obstacle more ahead fault left := by
  cases h with
  | refused refused held listed =>
    rw [Tokenizer.stream_of_held held] at listed
    refine .refused (refusal _ _ listed.symm refused) held ?_
    rw [← listed, Tokenizer.stream_of_held held]
  | missing listed fails => exact .missing listed fails

/-- A token is missing because a text is no token, because the input ends or because it cannot be
read. -/
theorem Tokenizer.kind_next {t : Tokenizer} {fault : Fault} (h : t.next.result = .error fault) :
    fault.kind ∈ [FaultKind.lexical, .endOfInput, .device] := by
  rcases explained_next t fault h with recoverable | ended
  · have listed : .error fault ∈ t.stream := by
      rw [stream_of_recoverable h recoverable]
      exact List.mem_cons_self
    rw [lexical_of_mem_stream listed recoverable]
    decide
  · rw [ended, Source.endFault]
    split <;> simp [Fault.kind]

theorem Obstacle.kind {refuses : Token → Prop} {ahead : Script} {fault : Fault} {left : Tokenizer}
    (h : Obstacle refuses ahead fault left) :
    fault.kind ∈ [FaultKind.grammar, .lexical, .endOfInput, .device] := by
  cases h with
  | refused => exact List.mem_cons_self
  | missing listed fails => exact List.mem_cons_of_mem _ (Tokenizer.kind_next fails)

/-- What belongs to a production of the grammar: how its trees and their parts are spelled and
evaluated in a context, what follows its trees, and what its parts refuse. -/
structure Production (κ τ σ α : Type) where
  spelling : τ → List Token
  Follows : Script → Prop
  evaluate : κ → τ → Except Fault α
  begun : σ → List Token
  Refuses : σ → Token → Prop
  attempt : κ → σ → Except Fault Unit

namespace Production

def primary : Production SymbolTable PrimaryTree PrimaryPart Float where
  spelling := PrimaryTree.spelling
  Follows _ := True
  evaluate := PrimaryTree.evaluate
  begun := PrimaryPart.spelling
  Refuses part token := part.Refuses token
  attempt := PrimaryPart.attempt

def term : Production SymbolTable TermTree TermPart Float where
  spelling := TermTree.spelling
  Follows := EndsTerm
  evaluate := TermTree.evaluate
  begun := TermPart.spelling
  Refuses part token := part.Refuses token
  attempt := TermPart.attempt

def factors : Production (SymbolTable × Float) FactorList FactorPart Float where
  spelling := FactorList.spelling
  Follows := EndsTerm
  evaluate context := FactorList.evaluateFrom context.1 context.2
  begun := FactorPart.spelling
  Refuses part token := part.Refuses token
  attempt context := FactorPart.attemptFrom context.1 context.2

def expression : Production SymbolTable ExpressionTree ExpressionPart Float where
  spelling := ExpressionTree.spelling
  Follows := EndsExpression
  evaluate := ExpressionTree.evaluate
  begun := ExpressionPart.spelling
  Refuses part token := part.Refuses token
  attempt := ExpressionPart.attempt

def terms : Production (SymbolTable × Float) TermList SummandPart Float where
  spelling := TermList.spelling
  Follows := EndsExpression
  evaluate context := TermList.evaluateFrom context.1 context.2
  begun := SummandPart.spelling
  Refuses part token := part.Refuses token
  attempt context := SummandPart.attemptFrom context.1 context.2

def statement : Production SymbolTable StatementTree StatementPart Evaluated where
  spelling := StatementTree.spelling
  Follows := EndsExpression
  evaluate := StatementTree.evaluate
  begun := StatementPart.spelling
  Refuses part token := part.Refuses token
  attempt := StatementPart.attempt

/-- Building a tree of a script and evaluating the script go along: either there is a tree, and it
is evaluated, or there is a part of one up to an obstacle, and that part is evaluated. -/
structure Agrees (p : Production κ τ σ α) (script : Script) (building : Step τ)
    (evaluation : κ → Step α) : Prop where
  whole (tree : τ) (built : building.result = .ok tree) :
    script = (p.spelling tree).map .ok ++ building.tokens.stream ∧
      p.Follows building.tokens.stream ∧
      ∀ context, (evaluation context).Yields (p.evaluate context tree) building.tokens
  broken (fault : Fault) (failed : building.result = .error fault) :
    ∃ (part : σ) (ahead : Script), script = (p.begun part).map .ok ++ ahead ∧
      Obstacle (p.Refuses part) ahead fault building.tokens ∧
      ∀ context, (evaluation context).BreaksOff (p.attempt context part) fault building.tokens

variable {κ' τ' σ' : Type} {p : Production κ τ σ α} {q : Production κ' τ' σ' β} {script : Script}
  {front : List Token} {t : Tokenizer}

theorem Agrees.after {building : Step τ} {evaluation : κ → Step α}
    (h : p.Agrees script building evaluation) (trace : List Event) (account : κ → List Event) :
    p.Agrees script (building.after trace) fun context =>
      (evaluation context).after (account context) := ⟨h.whole, h.broken⟩

/-- To agree from the start on, with nothing in front, is to agree. -/
theorem agrees_of_start {building started : Step τ} {evaluation begun : κ → Step α}
    (sameTree : building = started) (sameValue : ∀ context, evaluation context = begun context)
    (h : p.Agrees (([] : List Token).map .ok ++ script) started begun) :
    p.Agrees script building evaluation := by
  cases sameTree
  cases funext sameValue
  exact h

theorem agrees_settle {evaluation : κ → Step α} (tree : τ) (follows : p.Follows t.stream)
    (evaluated : ∀ context, (evaluation context).Yields (p.evaluate context tree) t) :
    p.Agrees ((p.spelling tree).map .ok ++ t.stream) (.settle (.ok tree) t) evaluation := by
  refine ⟨fun other built => ?_, fun fault failed => by cases failed⟩
  cases built
  exact ⟨rfl, follows, evaluated⟩

/-- Building takes the next token. -/
theorem agrees_built {f : Token → Tokenizer → Step τ} {evaluation : κ → Step α} {token : Token}
    (taken : t.next.result = .ok token)
    (behind : p.Agrees ((front ++ [token]).map .ok ++ t.next.tokens.stream)
      (f token t.next.tokens) evaluation) :
    p.Agrees (front.map .ok ++ t.stream) (t.next.andThen f) evaluation := by
  rw [List.map_append, List.append_assoc] at behind
  rw [Tokenizer.stream_of_ok taken, Step.andThen_of_ok taken]
  exact ⟨behind.whole, behind.broken⟩

/-- Building and evaluating take the next token alike. -/
theorem agrees_taken {f : Token → Tokenizer → Step τ} {g : κ → Token → Tokenizer → Step α}
    {token : Token} (taken : t.next.result = .ok token)
    (behind : p.Agrees ((front ++ [token]).map .ok ++ t.next.tokens.stream)
      (f token t.next.tokens) fun context => g context token t.next.tokens) :
    p.Agrees (front.map .ok ++ t.stream) (t.next.andThen f)
      fun context => t.next.andThen (g context) := by
  refine agrees_built taken ?_
  simp only [Step.andThen_of_ok taken]
  exact behind.after [] fun _ => t.next.trace

/-- Building and evaluating take the next token alike, or miss it alike. -/
theorem agrees_next {f : Token → Tokenizer → Step τ} {g : κ → Token → Tokenizer → Step α}
    (part : σ) (spelled : p.begun part = front) (quiet : ∀ context, p.attempt context part = .ok ())
    (behind : ∀ token, t.next.result = .ok token →
      p.Agrees ((front ++ [token]).map .ok ++ t.next.tokens.stream) (f token t.next.tokens)
        fun context => g context token t.next.tokens) :
    p.Agrees (front.map .ok ++ t.stream) (t.next.andThen f)
      fun context => t.next.andThen (g context) := by
  cases taken : t.next.result with
  | ok token => exact agrees_taken taken (behind token taken)
  | error fault =>
    simp only [Step.andThen_of_error taken]
    refine ⟨fun tree built => (by cases built), fun other failed => ?_⟩
    cases failed
    refine ⟨part, t.stream, by rw [spelled], .missing rfl taken, fun context => ?_⟩
    rw [quiet]
    exact ⟨rfl, fun _ => rfl⟩

/-- Building and evaluating give a token back alike. -/
theorem agrees_giveBack {f : Unit → Tokenizer → Step τ} {g : κ → Unit → Tokenizer → Step α}
    {token : Token} (free : t.held = none)
    (behind : p.Agrees (front.map .ok ++ (t.pushBack token).tokens.stream)
      (f () (t.pushBack token).tokens) fun context => g context () (t.pushBack token).tokens) :
    p.Agrees ((front ++ [token]).map .ok ++ t.stream) ((t.pushBack token).andThen f)
      fun context => (t.pushBack token).andThen (g context) := by
  have given : (t.pushBack token).result = .ok () := by rw [Tokenizer.pushBack_of_free token free]
  rw [Tokenizer.stream_pushBack token free] at behind
  simp only [Step.andThen_of_ok given, List.map_append, List.append_assoc]
  exact behind.after _ _

/-- Building and evaluating refuse a token alike. -/
theorem agrees_reject {evaluation : κ → Step α} {token : Token} (part : σ) (cause : GrammarFault)
    (free : t.held = none) (spelled : p.begun part = front) (refusal : p.Refuses part token)
    (broken : ∀ context, (evaluation context).BreaksOff (p.attempt context part) (.grammar cause)
      (t.pushBack token).tokens) :
    p.Agrees ((front ++ [token]).map .ok ++ t.stream) (t.reject token cause) evaluation := by
  have listed := Tokenizer.stream_pushBack token free
  rw [Tokenizer.pushBack_of_free token free] at listed broken
  rw [Tokenizer.reject, Tokenizer.pushBack_of_free token free]
  refine ⟨fun tree built => (by cases built), fun other failed => ?_⟩
  cases failed
  refine ⟨part, .ok token :: t.stream, ?_, .refused refusal rfl listed, broken⟩
  rw [spelled, List.map_append, List.append_assoc]
  rfl

/-- What is built first is built and evaluated alike, and so is what comes behind it. -/
theorem Agrees.andThen {building : Step τ'} {first : κ' → Step β} {f : τ' → Tokenizer → Step τ}
    {evaluation : κ → Step α} (agrees : q.Agrees script building first) (into : σ' → σ)
    (begun : ∀ part, p.begun (into part) = front ++ q.begun part)
    (refuses : ∀ part token more, script = (q.begun part).map .ok ++ .ok token :: more →
      q.Refuses part token → p.Refuses (into part) token)
    (breaks : ∀ part fault left context,
      (∀ inner, (first inner).BreaksOff (q.attempt inner part) fault left) →
        (evaluation context).BreaksOff (p.attempt context (into part)) fault left)
    (goesOn : ∀ tree, building.result = .ok tree → q.Follows building.tokens.stream →
      (∀ inner, (first inner).Yields (q.evaluate inner tree) building.tokens) →
        p.Agrees ((front ++ q.spelling tree).map .ok ++ building.tokens.stream)
          (f tree building.tokens) evaluation) :
    p.Agrees (front.map .ok ++ script) (building.andThen f) evaluation := by
  cases built : building.result with
  | error fault =>
    obtain ⟨part, ahead, spelled, obstacle, evaluated⟩ := agrees.broken fault built
    rw [Step.andThen_of_error built]
    refine ⟨fun tree built => (by cases built), fun other failed => ?_⟩
    cases failed
    refine ⟨into part, ahead, ?_, obstacle.mono fun token more next refused => ?_, fun context =>
      breaks part fault _ context evaluated⟩
    · rw [spelled, begun, List.map_append, List.append_assoc]
    · exact refuses part token more (next ▸ spelled) refused
  | ok tree =>
    obtain ⟨spelled, follows, evaluated⟩ := agrees.whole tree built
    have later := goesOn tree built follows evaluated
    rw [List.map_append, List.append_assoc, ← spelled] at later
    rw [Step.andThen_of_ok built]
    exact ⟨later.whole, later.broken⟩

end Production

end Calculator
