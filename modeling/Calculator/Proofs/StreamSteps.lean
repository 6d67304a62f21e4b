import Calculator.Session
import Calculator.TokenStream

namespace Calculator

variable {α β : Type}

@[simp] theorem Step.after_tokens (trace : List Event) (step : Step α) :
    (step.after trace).tokens = step.tokens := rfl

theorem Step.andThen_of_ok {step : Step α} {a : α} (h : step.result = .ok a)
    (f : α → Tokenizer → Step β) : step.andThen f = (f a step.tokens).after step.trace := by
  simp only [Step.andThen, h]

theorem Step.andThen_of_error {step : Step α} {fault : Fault} (h : step.result = .error fault)
    (f : α → Tokenizer → Step β) : step.andThen f = ⟨.error fault, step.tokens, step.trace⟩ := by
  simp only [Step.andThen, h]

theorem Step.andThen_ok {step : Step α} {f : α → Tokenizer → Step β} {b : β}
    (h : (step.andThen f).result = .ok b) :
    ∃ a, step.result = .ok a ∧ (f a step.tokens).result = .ok b ∧
      (step.andThen f).tokens = (f a step.tokens).tokens := by
  cases hr : step.result with
  | ok a =>
    rw [Step.andThen_of_ok hr] at h ⊢
    exact ⟨a, rfl, h, rfl⟩
  | error fault =>
    rw [Step.andThen_of_error hr] at h
    cases h

namespace Source

theorem next_of_unread_nil {s : Source} (h : s.unread = []) :
    next s = match s.failure with
      | none => .ok none s.fill
      | some text => .error (.device text) s.fill := by
  simp only [next, bind, EStateM.bind, peek_of_unread_nil h]
  cases s.failure <;> rfl

/-- What reading comes to when nothing is left to read. -/
def endFault (s : Source) : Fault :=
  match s.failure with
  | none => .endOfInput
  | some text => .device text

theorem nextNonBlank_of_unread_nil {s : Source} (h : s.unread = []) :
    nextNonBlank s = match s.failure with
      | none => .ok none s.fill
      | some text => .error (.device text) s.fill := by
  unfold nextNonBlank
  split
  next c rest taken =>
    rw [next_of_unread_nil h] at taken
    split at taken <;> cases taken
  next rest taken =>
    rw [next_of_unread_nil h] at taken
    split at taken <;> cases taken
    rfl
  next fault rest taken =>
    rw [next_of_unread_nil h] at taken
    split at taken <;> cases taken
    rfl

theorem token_of_unread_nil {dialect : Dialect} {s : Source} (h : s.unread = []) :
    token dialect s = .error s.endFault s.fill := by
  unfold token endFault
  simp only [bind, EStateM.bind, nextNonBlank_of_unread_nil h]
  cases s.failure <;> rfl

end Source

end Calculator
