import Calculator.Proofs.CleanScripts
import Calculator.Proofs.SessionVisits

namespace Calculator

variable {α β : Type}

/-- A fault is the one that fetching from a source ends with. -/
def Source.FailsWith (s : Source) (fault : Fault) : Prop :=
  ∃ text, s.failure = some text ∧ fault = .device text

/-- A fault for which the text is to blame: a session recovers from it, or it is how the source
ends. -/
def Source.Explains (s : Source) (fault : Fault) : Prop :=
  fault.recoverable = true ∨ fault = s.endFault

namespace Source

variable {s t : Source} {fault : Fault}

theorem Explains.of_leads (h : t.Explains fault) (leads : s.Leads t) : s.Explains fault := by
  unfold Explains at h ⊢
  rwa [leads.endFault] at h

theorem FailsWith.forward (h : s.FailsWith fault) (leads : s.Leads t) : t.FailsWith fault := by
  unfold FailsWith
  rwa [leads.failure]

/-- A session goes on, or comes to its end, or the source has failed. -/
theorem Explains.cases (h : s.Explains fault) :
    fault.recoverable = true ∨ fault = .endOfInput ∨ s.FailsWith fault := by
  rcases h with recoverable | ended
  · exact Or.inl recoverable
  · unfold endFault at ended
    split at ended
    next => exact Or.inr (Or.inl ended)
    next text failure => exact Or.inr (Or.inr ⟨text, failure, ended⟩)

theorem Explains.ne_internal (h : s.Explains fault) (cause : InternalFault) :
    fault ≠ .internal cause := by
  intro internal
  subst internal
  rcases h.cases with recoverable | ended | ⟨text, _, failed⟩
  · cases recoverable
  · cases ended
  · cases failed

theorem next_fails (h : next s = .error fault t) : s.FailsWith fault := by
  cases hu : s.unread with
  | nil =>
    rw [next_of_unread_nil hu] at h
    split at h
    next => cases h
    next text failure =>
      cases h
      exact ⟨text, failure, rfl⟩
  | cons c rest =>
    rw [next_of_peek (peek_of_unread_cons hu)] at h
    cases h

theorem skipThrough_fails {target : Char} {skipped : Nat}
    (h : skipThrough target skipped s = .error fault t) : s.FailsWith fault := by
  fun_induction skipThrough target skipped s with
  | case1 => cases h
  | case2 skipped s c rest taken other ih =>
    have same := ((reaches_next s).leads taken).failure
    obtain ⟨text, failure, device⟩ := ih h
    exact ⟨text, same.symm.trans failure, device⟩
  | case3 => cases h
  | case4 skipped s broken rest taken =>
    cases h
    exact next_fails taken

end Source

/-- A step from a tokenizer that fails only where the text is to blame. -/
def Step.Explained (t : Tokenizer) (step : Step α) : Prop :=
  ∀ fault, step.result = .error fault → t.source.Explains fault

namespace Step

variable {t u : Tokenizer}

theorem explained_andThen {step : Step α} {f : α → Tokenizer → Step β} (first : step.Explained t)
    (leads : t.source.Leads step.tokens.source)
    (second : ∀ a, step.result = .ok a → (f a step.tokens).Explained step.tokens) :
    (step.andThen f).Explained t := by
  intro fault h
  cases result : step.result with
  | error other =>
    rw [andThen_of_error result] at h
    cases h
    exact first fault result
  | ok a =>
    rw [andThen_of_ok result] at h
    exact (second a result fault h).of_leads leads

theorem explained_settle {result : Except Fault α} (recoverable : Recoverable result) :
    (settle result u : Step α).Explained t := fun fault h => Or.inl (recoverable fault h)

theorem explained_ok (a : α) : (settle (.ok a) u : Step α).Explained t :=
  explained_settle (recoverable_ok a)

theorem Explained.ne_internal {step : Step α} (h : step.Explained t) (cause : InternalFault) :
    step.result ≠ .error (.internal cause) :=
  fun failed => (h _ failed).ne_internal cause rfl

end Step

namespace Tokenizer

open Step

theorem explained_next (t : Tokenizer) : t.next.Explained t := by
  intro fault h
  unfold next at h
  split at h
  next => cases h
  next =>
    have reached := Source.reaches_token t.dialect t.source
    split at h
    next => cases h
    next other source broken =>
      cases h
      obtain ⟨_, final⟩ := reached.broken broken
      cases recoverable : fault.recoverable with
      | true => exact Or.inl recoverable
      | false => exact Or.inr (final recoverable).2

theorem explained_pushBack {t : Tokenizer} {f : Unit → Tokenizer → Step α} (token : Token)
    (free : t.held = none)
    (second : (f () (t.pushBack token).tokens).Explained (t.pushBack token).tokens) :
    ((t.pushBack token).andThen f).Explained t := by
  have given : (t.pushBack token).result = .ok () := by rw [pushBack_of_free token free]
  refine explained_andThen (fun fault h => ?_) (journey_calm.pushBack token t).2.1
    fun _ _ => second
  rw [given] at h
  cases h

theorem explained_reject {t : Tokenizer} (token : Token) (cause : GrammarFault)
    (free : t.held = none) : (t.reject token cause : Step α).Explained t := by
  refine explained_pushBack token free fun fault h => ?_
  cases h
  exact Or.inl rfl

/-- Each step of the evaluator takes a token first, which frees the slot. -/
theorem explained_next_andThen {t : Tokenizer} {f : Token → Tokenizer → Step α}
    (second : ∀ token, t.next.result = .ok token → t.next.tokens.held = none →
      (f token t.next.tokens).Explained t.next.tokens) :
    (t.next.andThen f).Explained t :=
  explained_andThen (explained_next t) (leads_next t) fun token taken =>
    second token taken (held_next t)

theorem explained_primaryFrom {table : SymbolTable} {t : Tokenizer} (free : t.held = none)
    (operand : (t.primary table).Explained t) (inner : (t.expression table).Explained t)
    (token : Token) : (primaryFrom table token t).Explained t := by
  obtain ⟨further, _, onward, _⟩ := journey_calm.grammar table t
  unfold primaryFrom
  split
  next =>
    refine explained_andThen inner onward.2.1 fun value _ => ?_
    refine explained_next_andThen fun close _ free => ?_
    split
    next => exact explained_ok _
    next => exact explained_reject _ _ free
  next => exact explained_andThen operand further.2.1 fun value _ => explained_ok _
  next => exact operand
  next => exact explained_ok _
  next name => exact explained_settle (recoverable_lookup table name)
  next => exact explained_reject _ _ free

/-- Wherever the evaluator starts, it fails only where the text is to blame. -/
theorem explained_grammar (table : SymbolTable) (t : Tokenizer) :
    (t.primary table).Explained t ∧ (t.term table).Explained t ∧
      (t.expression table).Explained t ∧ (∀ left, (t.termTail table left).Explained t) ∧
        ∀ left, (t.expressionTail table left).Explained t := by
  refine @grammar_induction table (fun t => (t.primary table).Explained t)
    (fun t => (t.term table).Explained t) (fun t => (t.expression table).Explained t)
    (fun left t => (t.termTail table left).Explained t)
    (fun left t => (t.expressionTail table left).Explained t)
    ?primary ?term ?termTail ?expression ?expressionTail t
  case primary =>
    intro t ih
    rw [primary_eq]
    refine explained_next_andThen fun token taken free => ?_
    obtain ⟨operand, inner⟩ := ih token taken
    exact explained_primaryFrom free operand inner token
  case term =>
    intro t operand tail
    rw [term_eq]
    exact explained_andThen operand (journey_calm.grammar table t).1.2.1 tail
  case termTail =>
    intro left t ih
    rw [termTail_eq]
    refine explained_next_andThen fun token taken free => ?_
    obtain ⟨operand, tail⟩ := ih token taken
    split
    next operator _ =>
      have further := (journey_calm.grammar table t.next.tokens).1.2.1
      refine explained_andThen operand further fun right read => ?_
      refine explained_andThen (explained_settle (recoverable_apply operator left right))
        (Source.Leads.refl _) fun value _ => ?_
      exact tail right value read
    next => exact explained_pushBack token free (explained_ok _)
  case expression =>
    intro t operand tail
    rw [expression_eq]
    exact explained_andThen operand (journey_calm.grammar table t).2.1.2.1 tail
  case expressionTail =>
    intro left t ih
    rw [expressionTail_eq]
    refine explained_next_andThen fun token taken free => ?_
    obtain ⟨operand, tail⟩ := ih token taken
    split
    next operator _ =>
      have further := (journey_calm.grammar table t.next.tokens).2.1.2.1
      exact explained_andThen operand further fun right read => tail right _ read
    next => exact explained_pushBack token free (explained_ok _)

theorem explained_declaration (table : SymbolTable) (t : Tokenizer) :
    (t.declaration table).Explained t := by
  rw [declaration_eq]
  refine explained_next_andThen fun token _ free => ?_
  split
  next _ name _ =>
    refine explained_next_andThen fun sign _ free => ?_
    split
    next =>
      have onward := (journey_calm.grammar table t.next.tokens.next.tokens).2.2.1
      refine explained_andThen (explained_grammar table _).2.2.1 onward.2.1 fun value _ => ?_
      refine explained_andThen (explained_settle (recoverable_declare table _ value))
        (Source.Leads.refl _) fun declared _ => ?_
      intro fault h
      cases h
    next => exact explained_reject _ _ free
  next => exact explained_reject _ _ free

theorem explained_statement (table : SymbolTable) (t : Tokenizer) :
    (t.statement table).Explained t := by
  rw [statement_eq]
  refine explained_next_andThen fun token _ free => ?_
  split
  next => exact explained_declaration table _
  next =>
    refine explained_pushBack _ free ?_
    have onward := (journey_calm.grammar table (t.next.tokens.pushBack token).tokens).2.2.1
    exact explained_andThen (explained_grammar table _).2.2.1 onward.2.1 fun _ _ => explained_ok _

theorem explained_firstToken (t : Tokenizer) : t.firstToken.Explained t := by
  rw [firstToken_eq]
  refine explained_next_andThen fun token taken _ => ?_
  split
  next =>
    have less := size_next_ok taken
    exact explained_firstToken t.next.tokens
  next => exact explained_ok _
termination_by t.size

theorem explained_statementAt (table : SymbolTable) (t : Tokenizer) :
    (statementAt table t.firstToken).Explained t := by
  have read := journey_calm.firstToken t
  refine explained_andThen (explained_firstToken t) read.2.1 fun token _ => ?_
  -- The first token goes back into the slot that taking it has freed.
  exact explained_pushBack token (held_firstToken t) (explained_statement table _)

theorem discardThrough_fails {target : Char} {t : Tokenizer} {fault : Fault}
    (h : (t.discardThrough target).result = .error fault) : t.source.FailsWith fault := by
  unfold discardThrough at h
  split at h
  next => cases h
  next =>
    split at h
    next => cases h
    next broken source skipped =>
      cases h
      exact Source.skipThrough_fails skipped

end Tokenizer

theorem Sink.full_of_write {sink : Sink} {text : String}
    (h : (sink.write text).complete = false) : (sink.write text).sink.room = some 0 := by
  unfold Sink.write at h ⊢
  cases room : sink.room with
  | none =>
    rw [room] at h
    cases h
  | some left =>
    rw [room] at h
    have short := of_decide_eq_false h
    dsimp only
    rw [Nat.sub_eq_zero_of_le (by omega)]

namespace Session

/-- A device has kept a session from going on: its source has failed, or a sink is full. -/
def Stuck (s : Session) (fault : Fault) : Prop :=
  s.tokens.source.FailsWith fault ∨
    (fault = Sink.full ∧ (s.out.room = some 0 ∨ s.err.room = some 0))

variable {s : Session} {fault : Fault}

theorem not_stuck (normal : s.tokens.source.failure = none) (outWide : s.out = .unlimited)
    (errWide : s.err = .unlimited) : ¬s.Stuck fault := by
  intro stuck
  rcases stuck with ⟨text, failed, _⟩ | ⟨_, full | full⟩
  · cases normal.symm.trans failed
  · rw [outWide] at full
    cases full
  · rw [errWide] at full
    cases full

theorem stuck_showValue {evaluated : Evaluated} {tokens : Tokenizer}
    (h : (s.showValue evaluated tokens).how = .broken fault) :
    (s.showValue evaluated tokens).session.Stuck fault := by
  unfold showValue at h ⊢
  dsimp only at h ⊢
  split at h
  next => cases h
  next incomplete =>
    cases h
    exact Or.inr ⟨rfl, Or.inl (Sink.full_of_write (by simpa using incomplete))⟩

theorem stuck_recover {other : Fault} {tokens : Tokenizer}
    (h : (s.recover other tokens).how = .broken fault) :
    (s.recover other tokens).session.Stuck fault := by
  have calm := calm_discardThrough s.settings.dialect.separator tokens
  unfold recover at h ⊢
  dsimp only at h ⊢
  split at h
  next complete =>
    rw [if_pos complete]
    dsimp only at h
    split at h
    next => cases h
    next broken skipped =>
      cases h
      exact Or.inl ((Tokenizer.discardThrough_fails skipped).forward calm.2.1)
  next incomplete =>
    cases h
    rw [if_neg incomplete]
    exact Or.inr ⟨rfl, Or.inr (Sink.full_of_write (by simpa using incomplete))⟩

theorem stuck_conclude {result : Except Fault Evaluated} {tokens : Tokenizer}
    (explained : ∀ other, result = .error other → tokens.source.Explains other)
    (h : (s.conclude result tokens).how = .broken fault) :
    (s.conclude result tokens).session.Stuck fault := by
  cases result with
  | ok evaluated => exact stuck_showValue h
  | error other =>
    unfold conclude at h ⊢
    dsimp only at h ⊢
    split at h
    next recoverable =>
      rw [if_pos recoverable]
      exact stuck_recover h
    next final =>
      rw [if_neg final]
      split at h
      next => cases h
      next more =>
        cases h
        rw [if_neg more]
        rcases (explained fault rfl).cases with recoverable | ended | failed
        · exact absurd recoverable final
        · exact absurd ended more
        · exact Or.inl failed

theorem stuck_answer (h : s.answer.how = .broken fault) : s.answer.session.Stuck fault := by
  unfold answer at h ⊢
  dsimp only at h ⊢
  split at h
  next => cases h
  next => cases h
  next =>
    have read := (journey_calm.statementAt s.table s.tokens).2.1
    refine stuck_conclude (fun other failed => ?_) h
    have explained := Tokenizer.explained_statementAt s.table s.tokens other failed
    unfold Source.Explains at explained ⊢
    rwa [read.endFault]

/-- A turn is broken off by a device only. -/
theorem stuck_turn (h : s.turn.how = .broken fault) : s.turn.session.Stuck fault := by
  unfold turn at h ⊢
  dsimp only at h ⊢
  split at h
  next complete =>
    rw [if_pos complete]
    exact stuck_answer h
  next incomplete =>
    cases h
    rw [if_neg incomplete]
    exact Or.inr ⟨rfl, Or.inl (Sink.full_of_write (by simpa using incomplete))⟩

/-- Where no device fails, no turn is broken off. -/
theorem turn_not_broken (normal : s.tokens.source.failure = none) (outWide : s.out = .unlimited)
    (errWide : s.err = .unlimited) : s.turn.how ≠ .broken fault := by
  intro broken
  have onward := onward_turn s
  exact not_stuck (onward.leads.failure.trans normal) (onward.out outWide) (onward.err errWide)
    (stuck_turn broken)

theorem stuck_runFrom (s : Session) (evaluated failed : Nat)
    (h : (s.runFrom evaluated failed).result = .error fault) :
    (s.runFrom evaluated failed).session.Stuck fault := by
  rw [runFrom_eq] at h ⊢
  cases how : s.turn.how with
  | evaluated =>
    have less := size_turn (Or.inl how)
    rw [how] at h
    exact stuck_runFrom s.turn.session (evaluated + 1) failed h
  | failed =>
    have less := size_turn (Or.inr how)
    rw [how] at h
    exact stuck_runFrom s.turn.session evaluated (failed + 1) h
  | finished ending =>
    rw [how] at h
    cases h
  | broken other =>
    rw [how] at h
    cases h
    exact stuck_turn how
termination_by s.tokens.size

theorem stuck_of_mem_runs {n : Nat} {report : Report} (listed : report ∈ s.runs n)
    (h : report.result = .error fault) : report.session.Stuck fault := by
  obtain ⟨before, _, same⟩ := exists_run_of_mem_runs listed
  subst same
  exact stuck_runFrom before 0 0 h

end Session

/-- The evaluator never gives back a token that there is no room for, and whatever the text is, only
a device breaks off a run. -/
theorem only_devices_break_runs {settings : Settings}
    (accepted : settings.dialect.check = .ok ()) :
    (∀ (table : SymbolTable) (t : Tokenizer) (cause : InternalFault),
      (t.primary table).result ≠ .error (.internal cause) ∧
        (t.term table).result ≠ .error (.internal cause) ∧
          (t.expression table).result ≠ .error (.internal cause) ∧
            (t.declaration table).result ≠ .error (.internal cause) ∧
              (t.statement table).result ≠ .error (.internal cause)) ∧
    ∀ (bytes : List UInt8) (failure : Option String) (out err : Sink),
      ∃ s, Session.start settings (.ofBytes bytes failure) out err = .ok s ∧
        ∀ n, ∀ report ∈ s.runs n,
          (∀ fault, report.result = .error fault → fault.kind = .device ∧
            ((∃ text, failure = some text ∧ fault = .device text) ∨ (fault = Sink.full ∧
              (report.session.out.room = some 0 ∨ report.session.err.room = some 0)))) ∧
          (failure = none → out = .unlimited → err = .unlimited →
            ∃ outcome, report.result = .ok outcome) := by
  constructor
  · intro table t cause
    obtain ⟨primary, term, expression, _⟩ := Tokenizer.explained_grammar table t
    have declaration := Tokenizer.explained_declaration table t
    have statement := Tokenizer.explained_statement table t
    exact ⟨primary.ne_internal cause, term.ne_internal cause, expression.ne_internal cause,
      declaration.ne_internal cause, statement.ne_internal cause⟩
  · intro bytes failure out err
    refine ⟨_, Session.start_eq accepted _ out err, fun n report listed => ?_⟩
    have onward := (Session.visits_of_mem_runs listed).onward
    constructor
    · intro fault h
      rcases Session.stuck_of_mem_runs listed h with ⟨text, failed, rfl⟩ | ⟨rfl, full⟩
      · exact ⟨rfl, Or.inl ⟨text, onward.leads.failure.symm.trans failed, rfl⟩⟩
      · exact ⟨rfl, Or.inr ⟨rfl, full⟩⟩
    · intro normal outWide errWide
      cases result : report.result with
      | ok outcome => exact ⟨outcome, rfl⟩
      | error fault =>
        exact absurd (Session.stuck_of_mem_runs listed result) (Session.not_stuck
          (onward.leads.failure.trans normal) (onward.out outWide) (onward.err errWide))

/-- Bytes that are no text break off no run, and a sink without room does. -/
theorem only_devices_break_runs_badBytes : Dialect.check {} = .ok () ∧
    (∃ s, Session.start {} (.ofBytes [0x31, 0xFF, 0x29, 0x3B, 0x2E] none) .unlimited .unlimited =
        .ok s ∧
      ∃ report ∈ s.runs 1, ∃ outcome, report.result = .ok outcome) ∧
    ∃ s, Session.start {} (.ofBytes [] none) ⟨some 0⟩ .unlimited = .ok s ∧
      ∃ report ∈ s.runs 1, report.result = .error Sink.full ∧
        (report.session.out.room = some 0 ∨ report.session.err.room = some 0) := by
  refine ⟨rfl, ?_, ?_⟩
  · obtain ⟨s, started, holds⟩ := (@only_devices_break_runs {} rfl).2
      [0x31, 0xFF, 0x29, 0x3B, 0x2E] none .unlimited .unlimited
    have listed : s.run ∈ s.runs 1 := List.mem_singleton_self _
    exact ⟨s, started, s.run, listed, (holds 1 s.run listed).2 rfl rfl rfl⟩
  · obtain ⟨s, started, holds⟩ := (@only_devices_break_runs {} rfl).2 [] none ⟨some 0⟩ .unlimited
    have broken : s.run.result = .error Sink.full := by
      cases started
      rw [Session.run, Session.runFrom_eq]
      rfl
    have listed : s.run ∈ s.runs 1 := List.mem_singleton_self _
    obtain ⟨_, ⟨text, failed, _⟩ | ⟨_, full⟩⟩ := (holds 1 s.run listed).1 _ broken
    · cases failed
    · exact ⟨s, started, s.run, listed, broken, full⟩

end Calculator
