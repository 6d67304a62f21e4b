import Calculator.Proofs.StreamSteps

namespace Calculator

variable {α : Type}

theorem Step.size_of_bounded {n : Nat} {step : Step α} {a : α} (bounded : step.Bounded n)
    (h : step.result = .ok a) : step.tokens.size < n := by
  simpa only [Step.Bounded, h] using bounded

namespace Tokenizer

theorem size_primary {table : SymbolTable} {t : Tokenizer} {v : Float}
    (h : (t.primary table).result = .ok v) : (t.primary table).tokens.size < t.size :=
  Step.size_of_bounded (Within.primary table t).property h

theorem size_term {table : SymbolTable} {t : Tokenizer} {v : Float}
    (h : (t.term table).result = .ok v) : (t.term table).tokens.size < t.size :=
  Step.size_of_bounded (Within.term table t).property h

/-- The induction that follows the evaluator: what holds of a call holds if it holds of each call
that it makes. -/
theorem grammar_induction (table : SymbolTable) {primaries terms expressions : Tokenizer → Prop}
    {termTails expressionTails : Float → Tokenizer → Prop}
    (primary : ∀ t, (∀ token, t.next.result = .ok token →
      primaries t.next.tokens ∧ expressions t.next.tokens) → primaries t)
    (term : ∀ t, primaries t → (∀ left, (t.primary table).result = .ok left →
      termTails left (t.primary table).tokens) → terms t)
    (termTail : ∀ left t, (∀ token, t.next.result = .ok token → primaries t.next.tokens ∧
      ∀ right value, (t.next.tokens.primary table).result = .ok right →
        termTails value (t.next.tokens.primary table).tokens) → termTails left t)
    (expression : ∀ t, terms t → (∀ left, (t.term table).result = .ok left →
      expressionTails left (t.term table).tokens) → expressions t)
    (expressionTail : ∀ left t, (∀ token, t.next.result = .ok token → terms t.next.tokens ∧
      ∀ right value, (t.next.tokens.term table).result = .ok right →
        expressionTails value (t.next.tokens.term table).tokens) → expressionTails left t)
    (t : Tokenizer) : primaries t ∧ terms t ∧ expressions t ∧
      (∀ left, termTails left t) ∧ ∀ left, expressionTails left t := by
  induction hn : t.size using Nat.strongRecOn generalizing t with
  | ind n ih =>
    have smaller : ∀ u : Tokenizer, u.size < t.size → primaries u ∧ terms u ∧ expressions u ∧
        (∀ left, termTails left u) ∧ ∀ left, expressionTails left u :=
      fun u less => ih u.size (by omega) u rfl
    have atPrimary : primaries t := by
      apply primary
      intro token taken
      obtain ⟨operand, _, inner, _⟩ := smaller t.next.tokens (size_next_ok taken)
      exact ⟨operand, inner⟩
    have atTerm : terms t := by
      refine term t atPrimary fun left first => ?_
      exact (smaller _ (size_primary first)).2.2.2.1 left
    refine ⟨atPrimary, atTerm, ?_, ?_, ?_⟩
    · refine expression t atTerm fun left first => ?_
      exact (smaller _ (size_term first)).2.2.2.2 left
    · intro left
      apply termTail
      intro token taken
      have less := size_next_ok taken
      refine ⟨(smaller _ less).1, fun right value second => ?_⟩
      have lesser := size_primary second
      exact (smaller _ (by omega)).2.2.2.1 value
    · intro left
      apply expressionTail
      intro token taken
      have less := size_next_ok taken
      refine ⟨(smaller _ less).2.1, fun right value second => ?_⟩
      have lesser := size_term second
      exact (smaller _ (by omega)).2.2.2.2 value

end Tokenizer

end Calculator
