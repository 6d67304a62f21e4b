import Calculator.Within

namespace Calculator

namespace Tokenizer

/-- A fault that is recovered from has taken something. -/
theorem size_next_error {t : Tokenizer} {fault : Fault} (h : t.next.result = .error fault)
    (recoverable : fault.recoverable = true) : t.next.tokens.size < t.size := by
  have bounded := (Within.next t).property
  have free : t.next.tokens.held = none := by
    unfold next
    split
    next => rfl
    next held => split <;> exact held
  simp only [Within.next, Step.Bounded, h] at bounded
  simpa [size, free] using bounded recoverable

theorem size_next_ok {t : Tokenizer} {token : Token} (h : t.next.result = .ok token) :
    t.next.tokens.size < t.size := by
  have bounded := (Within.next t).property
  simpa only [Within.next, Step.Bounded, h] using bounded

/-- Takes token after token up to the end of input, going on after a fault that is recovered
from. The last step is the one that failed for good. -/
def steps (t : Tokenizer) : List (Step Token) :=
  match _h : t.next.result with
  | .ok _ => t.next :: t.next.tokens.steps
  | .error fault =>
    if _recoverable : fault.recoverable then t.next :: t.next.tokens.steps else [t.next]
termination_by t.size
decreasing_by
  · exact size_next_ok _h
  · exact size_next_error _h _recoverable

/-- The tokens and faults that a tokenizer still holds, in order. The end of input is not
listed. -/
def stream (t : Tokenizer) : List (Except Fault Token) :=
  (t.steps.map Step.result).filter fun
    | .error .endOfInput => false
    | _ => true

/-- The tokenizer after all that it held has been taken. -/
def exhausted (t : Tokenizer) : Tokenizer :=
  match t.steps.getLast? with
  | some last => last.tokens
  | none => t

end Tokenizer

end Calculator
