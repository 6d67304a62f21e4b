import Calculator.Proofs.SourceLines

namespace Calculator

namespace Tokenizer

theorem steps_of_ok {t : Tokenizer} {token : Token} (h : t.next.result = .ok token) :
    t.steps = t.next :: t.next.tokens.steps := by
  rw [steps]
  split
  next => rfl
  next fault hf => rw [h] at hf; cases hf

theorem steps_of_error {t : Tokenizer} {fault : Fault} (h : t.next.result = .error fault) :
    t.steps = if fault.recoverable then t.next :: t.next.tokens.steps else [t.next] := by
  rw [steps]
  split
  next token ht => rw [h] at ht; cases ht
  next other ho =>
    rw [h] at ho
    cases ho
    split <;> rfl

theorem stream_of_ok {t : Tokenizer} {token : Token} (h : t.next.result = .ok token) :
    t.stream = .ok token :: t.next.tokens.stream := by
  simp [stream, steps_of_ok h, h]

theorem stream_of_recoverable {t : Tokenizer} {fault : Fault} (h : t.next.result = .error fault)
    (recoverable : fault.recoverable = true) :
    t.stream = .error fault :: t.next.tokens.stream := by
  have listed : fault ≠ .endOfInput := by rintro rfl; cases recoverable
  cases fault <;> simp_all [stream, steps_of_error h]

theorem stream_of_final {t : Tokenizer} {fault : Fault} (h : t.next.result = .error fault)
    (final : fault.recoverable = false) :
    t.stream = if fault = .endOfInput then [] else [.error fault] := by
  cases fault <;> simp_all [stream, steps_of_error h]

theorem next_of_held {t : Tokenizer} {token : Token} (h : t.held = some token) :
    t.next = ⟨.ok token, { t with held := none }, [.tokenAgain token]⟩ := by
  simp only [next, h]

theorem held_next (t : Tokenizer) : t.next.tokens.held = none := by
  unfold next
  split
  next => rfl
  next free => split <;> exact free

theorem dialect_next (t : Tokenizer) : t.next.tokens.dialect = t.dialect := by
  unfold next
  split
  next => rfl
  next free => split <;> rfl

theorem leads_next (t : Tokenizer) : t.source.Leads t.next.tokens.source := by
  unfold next
  split
  next => exact Source.Leads.refl _
  next free =>
    have reached := Source.reaches_token t.dialect t.source
    split
    next token source h => exact reached.leads h
    next fault source h => exact (reached.broken h).1

/-- A token that was given back is the next one to be taken. -/
theorem stream_of_held {t : Tokenizer} {token : Token} (h : t.held = some token) :
    t.stream = .ok token :: { t with held := none : Tokenizer }.stream := by
  have taken : t.next.result = .ok token := by rw [next_of_held h]
  rw [stream_of_ok taken, next_of_held h]

/-- After a fault that nothing recovers from, the same fault comes again. -/
theorem next_of_final {t : Tokenizer} {fault : Fault} (h : t.next.result = .error fault)
    (final : fault.recoverable = false) : t.next.tokens.next.result = .error fault := by
  cases held : t.held with
  | some token => rw [next_of_held held] at h; cases h
  | none =>
    unfold next at h ⊢
    simp only [held] at h ⊢
    cases hs : t.source.token t.dialect with
    | ok token source => rw [hs] at h; cases h
    | error other source =>
      simp only [hs] at h ⊢
      cases h
      obtain ⟨leads, finish⟩ := (Source.reaches_token t.dialect t.source).broken hs
      obtain ⟨used, same⟩ := finish final
      rw [Source.token_of_unread_nil used, leads.endFault, same]

theorem stream_next_of_final {t : Tokenizer} {fault : Fault} (h : t.next.result = .error fault)
    (final : fault.recoverable = false) : t.next.tokens.stream = t.stream := by
  rw [stream_of_final h final, stream_of_final (next_of_final h final) final]

theorem pushBack_of_free {t : Tokenizer} (token : Token) (free : t.held = none) :
    t.pushBack token = ⟨.ok (), { t with held := some token }, [.pushedBack token]⟩ := by
  simp [pushBack, free]

theorem stream_pushBack {t : Tokenizer} (token : Token) (free : t.held = none) :
    (t.pushBack token).tokens.stream = .ok token :: t.stream := by
  rw [pushBack_of_free token free, stream_of_held rfl]
  obtain ⟨dialect, source, held⟩ := t
  cases free
  rfl

theorem next_of_stream_ok {t : Tokenizer} {token : Token} {rest : List (Except Fault Token)}
    (h : t.stream = .ok token :: rest) :
    t.next.result = .ok token ∧ t.next.tokens.stream = rest := by
  cases taken : t.next.result with
  | ok other =>
    rw [stream_of_ok taken] at h
    obtain ⟨same, left⟩ := List.cons.inj h
    exact ⟨same, left⟩
  | error fault =>
    by_cases recoverable : fault.recoverable = true
    · rw [stream_of_recoverable taken recoverable] at h
      cases h
    · rw [stream_of_final taken (by simpa using recoverable)] at h
      split at h <;> cases h

/-- The first fault of the list is what taking the next token comes to. It stays in the list if it
is final. -/
theorem next_of_stream_error {t : Tokenizer} {fault : Fault} {rest : List (Except Fault Token)}
    (h : t.stream = .error fault :: rest) :
    t.next.result = .error fault ∧
      t.next.tokens.stream = if fault.recoverable then rest else .error fault :: rest := by
  cases taken : t.next.result with
  | ok other =>
    rw [stream_of_ok taken] at h
    cases h
  | error other =>
    by_cases recoverable : other.recoverable = true
    · rw [stream_of_recoverable taken recoverable] at h
      obtain ⟨same, left⟩ := List.cons.inj h
      cases same
      rw [if_pos recoverable]
      exact ⟨rfl, left⟩
    · have final : other.recoverable = false := by simpa using recoverable
      have again := stream_next_of_final taken final
      have listed := stream_of_final taken final
      rw [listed] at h
      split at h
      next => cases h
      next present =>
        cases h
        rw [if_neg present] at listed
        rw [if_neg recoverable, again, listed]
        exact ⟨rfl, rfl⟩

theorem next_of_stream_nil {t : Tokenizer} (h : t.stream = []) :
    t.next.result = .error .endOfInput ∧ t.next.tokens.stream = [] := by
  cases taken : t.next.result with
  | ok other =>
    rw [stream_of_ok taken] at h
    cases h
  | error fault =>
    by_cases recoverable : fault.recoverable = true
    · rw [stream_of_recoverable taken recoverable] at h
      cases h
    · have final : fault.recoverable = false := by simpa using recoverable
      have again := stream_next_of_final taken final
      rw [stream_of_final taken final] at h
      split at h
      next ended =>
        rw [again, stream_of_final taken final, if_pos ended, ended]
        exact ⟨rfl, rfl⟩
      next => cases h

end Tokenizer

end Calculator
