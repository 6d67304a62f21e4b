import Calculator.Proofs.CleanScripts

namespace Calculator

variable {α β : Type}

/-- A reading comes to its result within a script and sees nothing of what follows. -/
def Settles (f : Script → Reading α) (xs : Script) : Prop :=
  ∃ result zs, Recoverable result ∧ Script.Clean zs ∧ ∀ ys, f (xs ++ ys) = ⟨result, zs ++ ys⟩

/-- A script is too short for a reading, which a separator behind the script ends. -/
def RunsOut (f : Script → Reading α) (xs : Script) : Prop :=
  f xs = ⟨.error .endOfInput, []⟩ ∧ ∃ result, Recoverable result ∧
    ∀ ys, f (xs ++ Script.separator :: ys) = ⟨result, Script.separator :: ys⟩

/-- What a reading comes to that looks no further than it has to, and no further than a separator,
which stays. -/
def Stays (f : Script → Reading α) : Prop := ∀ xs, Script.Clean xs → Settles f xs ∨ RunsOut f xs

/-- A reading that stays sees nothing behind a separator. -/
theorem Stays.separated {f : Script → Reading α} (stays : Stays f) {xs : Script}
    (clean : Script.Clean xs) : ∃ result zs, Recoverable result ∧ Script.Clean zs ∧
      ∀ ys, f (xs ++ Script.separator :: ys) = ⟨result, zs ++ Script.separator :: ys⟩ := by
  rcases stays xs clean with ⟨result, zs, recoverable, left, same⟩ | ⟨_, result, recoverable, same⟩
  · exact ⟨result, zs, recoverable, left, fun ys => same (Script.separator :: ys)⟩
  · exact ⟨result, [], recoverable, Script.clean_nil, same⟩

/-- What follows a reading must take nothing more. -/
theorem stays_andThen {f : Script → Reading α} {g : α → Script → Reading β} (first : Stays f)
    (second : ∀ a, ∃ result, Recoverable result ∧ ∀ rest, g a rest = ⟨result, rest⟩) :
    Stays fun script => (f script).andThen g := by
  have settled : ∀ result : Except Fault α, Recoverable result → ∃ final, Recoverable final ∧
      ∀ rest, (⟨result, rest⟩ : Reading α).andThen g = ⟨final, rest⟩ := by
    intro result recoverable
    cases result with
    | error fault => exact ⟨.error fault, recoverable_error (recoverable fault rfl), fun _ => rfl⟩
    | ok a => exact second a
  intro xs clean
  rcases first xs clean with ⟨result, zs, recoverable, left, same⟩ | ⟨short, result, recoverable, same⟩
  · obtain ⟨final, recoverable, more⟩ := settled result recoverable
    refine Or.inl ⟨final, zs, recoverable, left, fun ys => ?_⟩
    simp only [same ys, more]
  · obtain ⟨final, recoverable, more⟩ := settled result recoverable
    refine Or.inr ⟨?_, final, recoverable, fun ys => ?_⟩
    · simp only [short, Reading.andThen_error]
    · simp only [same ys, more]

/-- What starts with any token stays, if a separator is refused. -/
theorem stays_next {f : Token → Script → Reading α} (cause : GrammarFault)
    (refused : ∀ rest, f (.punct .separator) rest =
      ⟨.error (.grammar cause), Script.separator :: rest⟩)
    (others : ∀ token, token ≠ .punct .separator → Stays (f token)) :
    Stays fun script => (Script.next script).andThen f := by
  intro xs clean
  match xs with
  | [] => exact Or.inr ⟨rfl, .error (.grammar cause), recoverable_error rfl, fun ys => refused ys⟩
  | .error fault :: rest =>
    refine Or.inl ⟨.error fault, rest, recoverable_error clean.head, clean.tail, fun ys => ?_⟩
    simp only [List.cons_append, Script.next, clean.head, ↓reduceIte, Reading.andThen_error]
  | .ok token :: rest =>
    by_cases same : token = .punct .separator
    · subst same
      refine Or.inl ⟨.error (.grammar cause), Script.separator :: rest, recoverable_error rfl,
        clean, fun ys => ?_⟩
      exact refused _
    · exact others token same rest clean.tail

theorem stays_reject (token : Token) (cause : GrammarFault) :
    Stays (Script.reject token cause : Script → Reading α) := by
  intro xs clean
  exact Or.inl ⟨.error (.grammar cause), .ok token :: xs, recoverable_error rfl,
    clean.token token, fun _ => rfl⟩

/-- A separator is refused or ends an expression, and is given back in any case. -/
theorem move_separator (table : SymbolTable) (phase : Phase) (frames : List Frame) :
    (∃ cause, phase.move table frames (.punct .separator) = .refuse (.grammar cause) true) ∨
      ∃ value, phase.move table frames (.punct .separator) = .accept value := by
  cases phase with
  | operand => exact Or.inl ⟨.primaryExpected, rfl⟩
  | operator value =>
    simp only [Phase.move, operatorMove, ProductOperator.ofToken?, SumOperator.ofToken?]
    unfold closingMove
    split
    next => exact Or.inl ⟨.closingExpected, rfl⟩
    next => exact Or.inr ⟨_, rfl⟩

theorem stays_evaluate (table : SymbolTable) (phase : Phase) (frames : List Frame) :
    Stays (Script.evaluate table phase frames) := by
  intro xs clean
  -- Each token may change the phase and what waits, so both are arbitrary.
  induction xs generalizing phase frames with
  | nil =>
    rcases move_separator table phase frames with ⟨cause, move⟩ | ⟨value, move⟩
    · refine Or.inr ⟨rfl, .error (.grammar cause), recoverable_error rfl, fun ys => ?_⟩
      rw [List.nil_append, Script.evaluate_cons, move]
      rfl
    · refine Or.inr ⟨rfl, .ok value, recoverable_ok value, fun ys => ?_⟩
      rw [List.nil_append, Script.evaluate_cons, move]
      rfl
  | cons first rest ih =>
    cases first with
    | error fault =>
      refine Or.inl ⟨.error fault, rest, recoverable_error clean.head, clean.tail, fun ys => ?_⟩
      simp only [List.cons_append, Script.evaluate, clean.head, ↓reduceIte]
    | ok token =>
      have step : ∀ ys, Script.evaluate table phase frames (.ok token :: rest ++ ys) =
          Script.follow table token (rest ++ ys) (phase.move table frames token) := fun ys =>
        Script.evaluate_cons phase
      cases move : phase.move table frames token with
      | goOn after later =>
        rw [move] at step
        rcases ih after later clean.tail with
          ⟨result, zs, recoverable, left, same⟩ | ⟨short, result, recoverable, same⟩
        · exact Or.inl ⟨result, zs, recoverable, left, fun ys => (step ys).trans (same ys)⟩
        · refine Or.inr ⟨?_, result, recoverable, fun ys => (step _).trans (same ys)⟩
          have bare := step []
          rw [List.append_nil, List.append_nil] at bare
          exact bare.trans short
      | accept value =>
        rw [move] at step
        exact Or.inl ⟨.ok value, .ok token :: rest, recoverable_ok value, clean, step⟩
      | refuse fault givenBack =>
        rw [move] at step
        have recoverable : Recoverable (.error fault : Except Fault Float) :=
          recoverable_error (refusal_of_move move).recoverable
        cases givenBack with
        | true => exact Or.inl ⟨.error fault, .ok token :: rest, recoverable, clean, step⟩
        | false => exact Or.inl ⟨.error fault, rest, recoverable, clean.tail, step⟩

theorem stays_declaration (table : SymbolTable) : Stays (Script.declaration table) := by
  refine stays_next .nameExpected (fun _ => rfl) fun token _ => ?_
  split
  next name _ =>
    refine stays_next .equalExpected (fun _ => rfl) fun sign _ => ?_
    split
    next =>
      refine stays_andThen (stays_evaluate table .operand []) fun value => ?_
      have recoverable := recoverable_declare table name value
      cases h : table.declare name value with
      | error fault =>
        exact ⟨.error fault, recoverable_error (recoverable fault h), fun rest => rfl⟩
      | ok declared => exact ⟨.ok ⟨value, declared⟩, recoverable_ok _, fun rest => rfl⟩
    next => exact stays_reject _ _
  next => exact stays_reject _ _

theorem stays_statement (table : SymbolTable) : Stays (Script.statement table) := by
  refine stays_next .primaryExpected (fun _ => rfl) fun token _ => ?_
  split
  next => exact stays_declaration table
  next =>
    intro xs clean
    have run := stays_andThen (stays_evaluate table .operand []) fun value =>
      ⟨.ok (⟨value, table⟩ : Evaluated), recoverable_ok _, fun rest => rfl⟩
    exact run (.ok _ :: xs) (clean.token _)

/-- A script holds a token to start a statement with, or only separators. -/
theorem Script.firstToken_append (xs : Script) (clean : Script.Clean xs) :
    Settles Script.firstToken xs ∨
      ∀ ys, Script.firstToken (xs ++ ys) = Script.firstToken ys := by
  induction xs with
  | nil => exact Or.inr fun _ => rfl
  | cons first rest ih =>
    cases first with
    | error fault =>
      refine Or.inl ⟨.error fault, rest, recoverable_error clean.head, clean.tail, fun ys => ?_⟩
      simp only [List.cons_append, Script.firstToken, Script.next, clean.head, ↓reduceIte]
    | ok token =>
      by_cases same : token = .punct .separator
      · subst same
        exact ih clean.tail
      · refine Or.inl ⟨.ok token, rest, recoverable_ok token, clean.tail, fun ys => ?_⟩
        cases token with
        | punct symbol =>
          cases symbol with
          | separator => exact absurd rfl same
          | _ => rfl
        | _ => rfl

end Calculator
