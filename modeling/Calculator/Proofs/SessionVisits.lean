import Calculator.Proofs.SessionOfTokens

namespace Calculator

theorem Sink.sink_write_of_unlimited {sink : Sink} (wide : sink = .unlimited) (text : String) :
    (sink.write text).sink = .unlimited := by
  rw [wide]
  rfl

/-- A write goes in as a whole, or a sink with limited room keeps a front of it. -/
theorem Sink.write_cases (sink : Sink) (text : String) :
    ((sink.write text).complete = true ∧ (sink.write text).kept = encodeUtf8 text) ∨
      (sink ≠ .unlimited ∧ (sink.write text).complete = false ∧
        (sink.write text).kept <+: encodeUtf8 text) := by
  obtain ⟨none | room⟩ := sink
  · exact Or.inl ⟨rfl, rfl⟩
  · by_cases fits : (encodeUtf8 text).length ≤ room
    · exact Or.inl ⟨decide_eq_true fits, List.take_of_length_le fits⟩
    · exact Or.inr ⟨nofun, decide_eq_false fits, List.take_prefix room (encodeUtf8 text)⟩

namespace Session

/-- A session that comes from another by reading on: it keeps its settings and its source, and a
sink that takes everything still does. -/
structure Onward (s after : Session) : Prop where
  settings : after.settings = s.settings
  dialect : after.tokens.dialect = s.tokens.dialect
  leads : s.tokens.source.Leads after.tokens.source
  out : s.out = .unlimited → after.out = .unlimited
  err : s.err = .unlimited → after.err = .unlimited

theorem Onward.refl (s : Session) : s.Onward s := ⟨rfl, rfl, Source.Leads.refl _, id, id⟩

theorem Onward.trans {s after last : Session} (first : s.Onward after)
    (second : after.Onward last) : s.Onward last where
  settings := second.settings.trans first.settings
  dialect := second.dialect.trans first.dialect
  leads := first.leads.trans second.leads
  out h := second.out (first.out h)
  err h := second.err (first.err h)

theorem Onward.ready {s after : Session} {dialect : Dialect} (onward : s.Onward after)
    (ready : s.tokens.Ready dialect) : after.tokens.Ready dialect :=
  ⟨onward.dialect.trans ready.same, ready.usable, ready.whole.of_leads onward.leads,
    Source.normal_of_leads ready.normal onward.leads⟩

theorem onward_of_calm {s : Session} {trace : List Event} {tokens : Tokenizer}
    (calm : Calm s.tokens trace tokens) : s.Onward { s with tokens } :=
  ⟨rfl, calm.1, calm.2.1, id, id⟩

theorem onward_showValue (s : Session) (evaluated : Evaluated) (tokens : Tokenizer) :
    ({ s with tokens } : Session).Onward (s.showValue evaluated tokens).session where
  settings := rfl
  dialect := rfl
  leads := Source.Leads.refl _
  out wide := Sink.sink_write_of_unlimited wide _
  err := id

theorem showValue_how (s : Session) (evaluated : Evaluated) (tokens : Tokenizer) :
    (s.showValue evaluated tokens).how = .evaluated ∨
      (s.showValue evaluated tokens).how = .broken Sink.full := by
  unfold showValue
  dsimp only
  split
  next => exact Or.inl rfl
  next => exact Or.inr rfl

/-- A session that recovers from a fault has skipped the rest of its statement. -/
theorem recover_how (s : Session) (fault : Fault) (tokens : Tokenizer) :
    ((s.recover fault tokens).how = .failed ∧ (s.recover fault tokens).session.tokens =
      (tokens.discardThrough s.settings.dialect.separator).tokens) ∨
    ∃ broken, (s.recover fault tokens).how = .broken broken := by
  unfold recover
  dsimp only
  split
  next =>
    split
    next => exact Or.inl ⟨rfl, rfl⟩
    next broken _ => exact Or.inr ⟨broken, rfl⟩
  next => exact Or.inr ⟨_, rfl⟩

theorem onward_recover (s : Session) (fault : Fault) (tokens : Tokenizer) :
    ({ s with tokens } : Session).Onward (s.recover fault tokens).session := by
  have calm := calm_discardThrough s.settings.dialect.separator tokens
  have told : s.err = .unlimited → (s.err.write (fault.message ++ "\n")).sink = .unlimited :=
    fun wide => Sink.sink_write_of_unlimited wide _
  unfold recover
  dsimp only
  split
  next => exact ⟨rfl, calm.1, calm.2.1, id, told⟩
  next => exact ⟨rfl, rfl, Source.Leads.refl _, id, told⟩

theorem onward_conclude (s : Session) (result : Except Fault Evaluated) (tokens : Tokenizer) :
    ({ s with tokens } : Session).Onward (s.conclude result tokens).session := by
  unfold conclude
  split
  next evaluated => exact onward_showValue s evaluated tokens
  next fault =>
    split
    next => exact onward_recover s fault tokens
    next =>
      split
      next => exact Onward.refl _
      next => exact Onward.refl _

theorem onward_answer (s : Session) : s.Onward s.answer.session := by
  unfold answer
  dsimp only
  split
  next => exact onward_of_calm (journey_calm.firstToken s.tokens)
  next => exact onward_of_calm (journey_calm.firstToken s.tokens)
  next =>
    have read := onward_of_calm (journey_calm.statementAt s.table s.tokens)
    exact read.trans (onward_conclude s _ _)

/-- A turn goes onward, however it ends. -/
theorem onward_turn (s : Session) : s.Onward s.turn.session := by
  have prompted : s.Onward { s with out := (s.out.write s.settings.prompt).sink } :=
    ⟨rfl, rfl, Source.Leads.refl _, fun wide => Sink.sink_write_of_unlimited wide _, id⟩
  unfold turn
  dsimp only
  split
  next => exact prompted.trans (onward_answer _)
  next => exact prompted

/-- The sessions that turn after turn leads to. However a turn ends, the next one, of the same run
or of another, starts with the session after it. -/
inductive Visits (s : Session) : Session → Prop where
  | here : Visits s s
  | turn {after : Session} (earlier : Visits s after) : Visits s after.turn.session

theorem Visits.trans {s after last : Session} (first : s.Visits after)
    (second : after.Visits last) : s.Visits last := by
  induction second with
  | here => exact first
  | turn _ ih => exact .turn ih

/-- What every turn keeps holds of all sessions visited. -/
theorem Visits.keeps {s after : Session} {P : Session → Prop} (visits : s.Visits after)
    (kept : ∀ before, s.Visits before → P before → P before.turn.session) (start : P s) :
    P after := by
  induction visits with
  | here => exact start
  | turn earlier ih => exact kept _ earlier ih

theorem Visits.onward {s after : Session} (visits : s.Visits after) : s.Onward after :=
  visits.keeps (fun before _ h => h.trans (onward_turn before)) (Onward.refl s)

/-- A run visits the session that it leaves. -/
theorem visits_runFrom (s : Session) (evaluated failed : Nat) :
    s.Visits (s.runFrom evaluated failed).session := by
  rw [runFrom_eq]
  have first : s.Visits s.turn.session := .turn .here
  cases h : s.turn.how with
  | evaluated =>
    have less := size_turn (Or.inl h)
    exact first.trans (visits_runFrom s.turn.session (evaluated + 1) failed)
  | failed =>
    have less := size_turn (Or.inr h)
    exact first.trans (visits_runFrom s.turn.session evaluated (failed + 1))
  | finished ending => exact first
  | broken fault => exact first
termination_by s.tokens.size

/-- Each of several runs starts with a session that the ones before it visit. -/
theorem exists_run_of_mem_runs {n : Nat} {s : Session} {report : Report}
    (h : report ∈ s.runs n) : ∃ before, s.Visits before ∧ report = before.run := by
  induction n generalizing s with
  | zero => cases h
  | succ n ih =>
    rcases List.mem_cons.mp h with rfl | later
    · exact ⟨s, .here, rfl⟩
    · obtain ⟨before, visits, same⟩ := ih later
      exact ⟨before, (visits_runFrom s 0 0).trans visits, same⟩

theorem visits_of_mem_runs {n : Nat} {s : Session} {report : Report} (h : report ∈ s.runs n) :
    s.Visits report.session := by
  obtain ⟨before, visits, rfl⟩ := exists_run_of_mem_runs h
  exact visits.trans (visits_runFrom before 0 0)

end Session

end Calculator
