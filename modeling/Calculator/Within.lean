import Calculator.Tokenizer

namespace Calculator

variable {α β : Type} {m n : Nat}

namespace Step

/-- A result that may be a fault, with nothing taken. -/
def settle (result : Except Fault α) (t : Tokenizer) : Step α := ⟨result, t, []⟩

/-- Puts an account of earlier events in front of a step's own. -/
def after (trace : List Event) (step : Step α) : Step α :=
  { step with trace := trace ++ step.trace }

/-- Goes on from the result of a step, unless a fault broke it off. -/
def andThen (step : Step α) (f : α → Tokenizer → Step β) : Step β :=
  match step.result with
  | .ok a => (f a step.tokens).after step.trace
  | .error fault => ⟨.error fault, step.tokens, step.trace⟩

/-- Whether a step leaves less than `n` to take. After a fault that a session recovers from, the
token in the slot does not count, because recovery drops it. -/
def Bounded (n : Nat) (step : Step α) : Prop :=
  match step.result with
  | .ok _ => step.tokens.size < n
  | .error fault => fault.recoverable = true → step.tokens.source.unread.length < n

end Step

/-- Gives a token back and fails because of it, so that it is there for what comes next. -/
def Tokenizer.reject (token : Token) (cause : GrammarFault) (t : Tokenizer) : Step α :=
  (t.pushBack token).andThen fun _ rest => ⟨.error (.grammar cause), rest, []⟩

theorem Tokenizer.unread_le_size (t : Tokenizer) : t.source.unread.length ≤ t.size :=
  Nat.le_add_right _ _

theorem Tokenizer.size_pushBack (token : Token) (t : Tokenizer) :
    (t.pushBack token).tokens.size ≤ t.size + 1 := by
  unfold Tokenizer.pushBack
  split
  next => exact Nat.le_succ _
  next => exact Nat.add_le_add_right t.unread_le_size 1

theorem Tokenizer.pushBack_error {token : Token} {t : Tokenizer} {fault : Fault}
    (h : (t.pushBack token).result = .error fault) : fault.recoverable = false := by
  unfold Tokenizer.pushBack at h
  split at h <;> cases h
  rfl

/-- A step that leaves less than `n` to take. -/
def Within (n : Nat) (α : Type) : Type := { step : Step α // step.Bounded n }

namespace Within

/-- A result, with nothing taken. -/
def done (value : α) (t : Tokenizer) (less : t.size < n) : Within n α :=
  ⟨.settle (.ok value) t, less⟩

/-- Tells of an event before a step. -/
def note (event : Event) (step : Within n α) : Within n α :=
  ⟨step.val.after [event], step.property⟩

theorem bounded_of_le {step : Step α} (le : m ≤ n) (h : step.Bounded m) : step.Bounded n := by
  unfold Step.Bounded at h ⊢
  split at h
  next => exact Nat.lt_of_lt_of_le h le
  next => exact fun recoverable => Nat.lt_of_lt_of_le (h recoverable) le

/-- The same step with a greater bound. -/
def weaken (step : Within m α) (le : m ≤ n) : Within n α :=
  ⟨step.val, bounded_of_le le step.property⟩

/-- Goes on from the result of a step, which left less to take. -/
def bind (step : Within m α) (le : m ≤ n)
    (f : (a : α) → (rest : Tokenizer) → rest.size < m → Within n β) : Within n β :=
  match h : step.val.result with
  | .ok a =>
    let next := f a step.val.tokens (by simpa [Step.Bounded, h] using step.property)
    ⟨next.val.after step.val.trace, next.property⟩
  | .error fault =>
    ⟨⟨.error fault, step.val.tokens, step.val.trace⟩, fun recoverable =>
      Nat.lt_of_lt_of_le (by simpa [Step.Bounded, h, recoverable] using step.property) le⟩

/-- Going on with known bounds is going on. -/
theorem val_bind {step : Within m α} {le : m ≤ n}
    {f : (a : α) → (rest : Tokenizer) → rest.size < m → Within n β}
    {g : α → Tokenizer → Step β} (same : ∀ a rest less, (f a rest less).val = g a rest) :
    (step.bind le f).val = step.val.andThen g := by
  unfold bind Step.andThen
  split
  next a h => simp only [h, same]
  next fault h => simp only [h]

/-- A result that may be a fault, with nothing taken. -/
def settle (result : Except Fault α) (t : Tokenizer) (less : t.size < n) : Within n α :=
  ⟨Step.settle result t, by
    cases result with
    | ok => exact less
    | error => exact fun _ => Nat.lt_of_le_of_lt t.unread_le_size less⟩

/-- The next token of a tokenizer. -/
def next (t : Tokenizer) : Within t.size Token :=
  ⟨t.next, by
    cases held : t.held with
    | some token => simp [Tokenizer.next, Step.Bounded, Tokenizer.size, held]
    | none =>
      cases h : t.source.token t.dialect with
      | ok token source =>
        simpa [Tokenizer.next, Step.Bounded, Tokenizer.size, held, h] using Source.token_ok h
      | error fault source =>
        simpa [Tokenizer.next, Step.Bounded, Tokenizer.size, held, h] using Source.token_error h⟩

/-- Gives a token back and goes on with it in the slot. -/
def giveBack (token : Token) (t : Tokenizer) (less : t.size < m)
    (f : (rest : Tokenizer) → rest.size ≤ m → Within n β) : Within n β :=
  match h : (t.pushBack token).result with
  | .ok () =>
    let next := f (t.pushBack token).tokens (Nat.le_trans (Tokenizer.size_pushBack token t) less)
    ⟨next.val.after (t.pushBack token).trace, next.property⟩
  | .error fault =>
    ⟨⟨.error fault, (t.pushBack token).tokens, (t.pushBack token).trace⟩, fun recoverable => by
      rw [Tokenizer.pushBack_error h] at recoverable
      cases recoverable⟩

theorem val_giveBack {token : Token} {t : Tokenizer} {less : t.size < m}
    {f : (rest : Tokenizer) → rest.size ≤ m → Within n β} {g : Tokenizer → Step β}
    (same : ∀ rest le, (f rest le).val = g rest) :
    (giveBack token t less f).val = (t.pushBack token).andThen fun _ => g := by
  unfold giveBack Step.andThen
  split
  next h => simp only [h, same]
  next fault h => simp only [h]

/-- Gives a token back that the grammar has no place for. -/
def reject (token : Token) (cause : GrammarFault) (t : Tokenizer) (less : t.size < n) :
    Within n α :=
  ⟨t.reject token cause, by
    have := Nat.lt_of_le_of_lt t.unread_le_size less
    unfold Tokenizer.reject Tokenizer.pushBack
    split
    next => exact fun recoverable => by cases recoverable
    next => exact fun _ => this⟩

end Within

end Calculator
