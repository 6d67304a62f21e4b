import Calculator.Proofs.CleanScripts

namespace Calculator

variable {α β : Type}

namespace Source

/-- A result after which a session goes on only if a text was no token. -/
def FailsLexically (r : EStateM.Result Fault Source α) : Prop :=
  ∀ fault t, r = .error fault t → fault.recoverable = true → fault.kind = .lexical

theorem failsLexically_ok (a : α) (s : Source) : FailsLexically (.ok a s) := by
  intro fault t h
  cases h

theorem failsLexically_throw (cause : LexicalFault) (s : Source) :
    FailsLexically ((throw (.lexical cause) : Scan α) s) := by
  intro fault t h _
  cases h
  rfl

theorem failsLexically_of_final {r : EStateM.Result Fault Source α}
    (final : ∀ fault t, r = .error fault t → fault.recoverable = false) : FailsLexically r := by
  intro fault t h recoverable
  rw [final fault t h] at recoverable
  cases recoverable

theorem failsLexically_bind {x : Scan α} {f : α → Scan β} {s : Source}
    (first : FailsLexically (x s)) (second : ∀ a t, FailsLexically (f a t)) :
    FailsLexically ((x >>= f) s) := by
  intro fault t h
  rcases Scan.bind_eq_error.mp h with here | ⟨a, u, _, later⟩
  · exact first fault t here
  · exact second a u fault t later

theorem failsLexically_ite {p : Prop} [Decidable p] {x y : Scan α} {s : Source}
    (hx : FailsLexically (x s)) (hy : FailsLexically (y s)) :
    FailsLexically ((if p then x else y) s) := by
  by_cases h : p
  · rw [if_pos h]
    exact hx
  · rw [if_neg h]
    exact hy

theorem failsLexically_literal (s : Source) : FailsLexically (literal s) := by
  refine failsLexically_bind (failsLexically_of_final fun _ _ h => (takeWhile_error h).1)
    fun whole t => ?_
  refine failsLexically_bind (failsLexically_of_final fun _ _ h => fractionPart_error h)
    fun fraction u => ?_
  apply failsLexically_ite
  · exact failsLexically_bind (failsLexically_of_final fun _ _ h => exponentPart_error h)
      fun _ _ => failsLexically_ok _ _
  · exact failsLexically_throw _ u

theorem failsLexically_number (s : Source) : FailsLexically (number s) := by
  refine failsLexically_bind (failsLexically_literal s) fun taken t => ?_
  cases literalValue taken with
  | ok value => exact failsLexically_ok _ t
  | error cause => exact failsLexically_throw _ t

theorem failsLexically_token (dialect : Dialect) (s : Source) :
    FailsLexically (token dialect s) := by
  refine failsLexically_bind (failsLexically_of_final fun _ _ h => nextNonBlank_error h)
    fun c t => ?_
  cases c with
  | none => exact failsLexically_of_final fun fault u h => by cases h; rfl
  | some c =>
    simp only [tokenFrom]
    cases Symbol.ofChar? dialect.separator c with
    | some symbol => exact failsLexically_ok _ t
    | none =>
      apply failsLexically_ite
      · refine failsLexically_bind (show FailsLexically ((modify (putBack c) : Scan PUnit) t) from
          failsLexically_ok _ _) fun _ u => ?_
        exact failsLexically_bind (failsLexically_number u) fun _ _ => failsLexically_ok _ _
      · apply failsLexically_ite
        · exact failsLexically_bind (failsLexically_of_final fun _ _ h => (takeWhile_error h).1)
            fun _ _ => failsLexically_ok _ _
        · exact failsLexically_throw _ t

end Source

/-- Of the faults that a tokenizer lists, a session goes on only after those of a text that is no
token. -/
theorem Tokenizer.lexical_of_mem_stream {t : Tokenizer} {fault : Fault}
    (h : .error fault ∈ t.stream) (recoverable : fault.recoverable = true) :
    fault.kind = .lexical := by
  cases taken : t.next.result with
  | ok token =>
    have less := size_next_ok taken
    rw [stream_of_ok taken] at h
    exact lexical_of_mem_stream ((List.mem_cons.mp h).resolve_left (by simp)) recoverable
  | error other =>
    cases goesOn : other.recoverable with
    | true =>
      have less := size_next_error taken goesOn
      rw [stream_of_recoverable taken goesOn] at h
      rcases List.mem_cons.mp h with here | later
      · cases here
        simp only [next] at taken
        split at taken
        next => cases taken
        next =>
          split at taken
          next => cases taken
          next broken source read =>
            cases taken
            exact Source.failsLexically_token t.dialect t.source fault source read recoverable
      · exact lexical_of_mem_stream later recoverable
    | false =>
      rw [stream_of_final taken goesOn] at h
      split at h
      next => cases h
      next =>
        cases List.mem_singleton.mp h
        rw [goesOn] at recoverable
        cases recoverable
termination_by t.size

namespace Script

/-- Why an expression can fail: its tokens end, or one of them is a fault, or is refused. -/
inductive Fails (script : Script) : Fault → Prop where
  | ended : Fails script .endOfInput
  | listed {fault : Fault} (mem : .error fault ∈ script) : Fails script fault
  | refused {token : Token} {fault : Fault} (mem : .ok token ∈ script)
    (refusal : Refusal token fault) : Fails script fault

/-- Why a statement can fail: as an expression, or as a declaration that lacks its name or its
sign, or whose name is taken. -/
inductive Blames (script : Script) : Fault → Prop where
  | expression {fault : Fault} (fails : Fails script fault) : Blames script fault
  | nameExpected : Blames script (.grammar .nameExpected)
  | equalExpected : Blames script (.grammar .equalExpected)
  | declaredTwice {name : String} (mem : .ok (.identifier name) ∈ script) :
    Blames script (.name .declaredTwice name)

variable {script more : Script} {fault : Fault}

theorem Fails.mono (h : script.Fails fault) (part : script ⊆ more) : more.Fails fault := by
  cases h with
  | ended => exact .ended
  | listed mem => exact .listed (part mem)
  | refused mem refusal => exact .refused (part mem) refusal

theorem Blames.mono (h : script.Blames fault) (part : script ⊆ more) : more.Blames fault := by
  cases h with
  | expression fails => exact .expression (fails.mono part)
  | nameExpected => exact .nameExpected
  | equalExpected => exact .equalExpected
  | declaredTwice mem => exact .declaredTwice (part mem)

end Script

/-- A reading of a script that leaves only items of it, and fails only for certain reasons. -/
structure Reading.Keeps (script : Script) (reasons : Fault → Prop) (reading : Reading α) :
    Prop where
  rest : reading.rest ⊆ script
  fault : ∀ fault, reading.result = .error fault → reasons fault

namespace Reading

variable {script : Script} {reasons : Fault → Prop}

theorem Keeps.mono {part : Script} {fewer : Fault → Prop} {reading : Reading α}
    (h : reading.Keeps part fewer) (inside : part ⊆ script)
    (all : ∀ fault, fewer fault → reasons fault) : reading.Keeps script reasons :=
  ⟨fun _ mem => inside (h.rest mem), fun fault failed => all fault (h.fault fault failed)⟩

theorem keeps_ok {rest : Script} (a : α) (inside : rest ⊆ script) :
    (⟨.ok a, rest⟩ : Reading α).Keeps script reasons :=
  ⟨inside, fun fault h => by cases h⟩

theorem keeps_andThen {reading : Reading α} {f : α → Script → Reading β}
    (first : reading.Keeps script reasons)
    (second : ∀ a, reading.result = .ok a → (f a reading.rest).Keeps script reasons) :
    (reading.andThen f).Keeps script reasons := by
  obtain ⟨result, rest⟩ := reading
  cases result with
  | ok a => exact second a rfl
  | error fault =>
    refine ⟨first.rest, fun other h => first.fault other ?_⟩
    cases h
    rfl

end Reading

namespace Script

open Reading

variable {script : Script}

theorem keeps_next (script : Script) : (next script).Keeps script script.Fails := by
  match script with
  | [] => exact ⟨List.Subset.refl _, fun fault h => by cases h; exact .ended⟩
  | .ok token :: rest => exact keeps_ok token (List.subset_cons_self _ _)
  | .error broken :: rest =>
    refine ⟨?_, fun fault h => ?_⟩
    · simp only [next]
      split
      next => exact List.subset_cons_self _ _
      next => exact List.Subset.refl _
    · cases h
      exact .listed List.mem_cons_self

theorem mem_of_next {token : Token} (h : (next script).result = .ok token) :
    .ok token ∈ script := by
  match script with
  | [] => cases h
  | .ok other :: rest =>
    cases h
    exact List.mem_cons_self
  | .error fault :: rest => cases h

/-- An expression fails only for the reasons that there are for it. -/
theorem keeps_evaluate (table : SymbolTable) (phase : Phase) (frames : List Frame)
    (script : Script) : (evaluate table phase frames script).Keeps script script.Fails := by
  induction script generalizing phase frames with
  | nil =>
    refine ⟨List.Subset.refl _, fun fault h => ?_⟩
    cases h
    exact .ended
  | cons first rest ih =>
    have tail : rest ⊆ first :: rest := List.subset_cons_self _ _
    cases first with
    | error fault => exact ⟨(keeps_next (.error fault :: rest)).rest, fun other h => by
        cases h
        exact .listed List.mem_cons_self⟩
    | ok token =>
      rw [evaluate_cons]
      cases move : phase.move table frames token with
      | goOn after later => exact (ih after later).mono tail fun fault fails => fails.mono tail
      | accept value => exact keeps_ok value (List.Subset.refl _)
      | refuse fault givenBack =>
        refine ⟨?_, fun other h => ?_⟩
        · cases givenBack with
          | true => exact List.Subset.refl _
          | false => exact tail
        · cases h
          exact .refused List.mem_cons_self (refusal_of_move move)

theorem keeps_declaration (table : SymbolTable) (script : Script) :
    (declaration table script).Keeps script script.Blames := by
  have first := keeps_next script
  refine keeps_andThen (first.mono (List.Subset.refl _) fun _ => .expression) fun token taken => ?_
  have named := mem_of_next taken
  have second := keeps_next (next script).rest
  have inner := keeps_evaluate table .operand [] (next (next script).rest).rest
  have inside : (next (next script).rest).rest ⊆ script := fun _ mem => first.rest (second.rest mem)
  split
  next name =>
    refine keeps_andThen (second.mono first.rest fun _ fails => .expression (fails.mono first.rest))
      fun sign read => ?_
    split
    next =>
      refine keeps_andThen (inner.mono inside fun _ fails => .expression (fails.mono inside))
        fun value _ => ?_
      have left : (evaluate table .operand [] (next (next script).rest).rest).rest ⊆ script :=
        fun _ mem => inside (inner.rest mem)
      refine keeps_andThen ⟨left, fun fault failed => ?_⟩ fun declared _ => keeps_ok _ left
      rw [declare_error failed]
      exact .declaredTwice named
    next =>
      refine ⟨List.cons_subset.mpr ⟨first.rest (mem_of_next read), inside⟩, fun fault failed => ?_⟩
      cases failed
      exact .equalExpected
  next =>
    refine ⟨List.cons_subset.mpr ⟨named, first.rest⟩, fun fault failed => ?_⟩
    cases failed
    exact .nameExpected

/-- A statement fails only for the reasons that there are for it. -/
theorem keeps_statement (table : SymbolTable) (script : Script) :
    (statement table script).Keeps script script.Blames := by
  have first := keeps_next script
  refine keeps_andThen (first.mono (List.Subset.refl _) fun _ => .expression) fun token taken => ?_
  split
  next =>
    exact (keeps_declaration table (next script).rest).mono first.rest fun _ blamed =>
      blamed.mono first.rest
  next =>
    have inside : .ok token :: (next script).rest ⊆ script :=
      List.cons_subset.mpr ⟨mem_of_next taken, first.rest⟩
    have inner := keeps_evaluate table .operand [] (.ok token :: (next script).rest)
    refine keeps_andThen (inner.mono inside fun _ fails => .expression (fails.mono inside))
      fun value _ => keeps_ok _ fun _ mem => inside (inner.rest mem)

theorem keeps_firstToken (script : Script) : (firstToken script).Keeps script script.Fails := by
  induction script with
  | nil => exact keeps_next []
  | cons first rest ih =>
    have tail : rest ⊆ first :: rest := List.subset_cons_self _ _
    unfold firstToken
    split
    next h =>
      cases h
      exact ih.mono tail fun _ fails => fails.mono tail
    next => exact keeps_next _

theorem mem_of_firstToken {token : Token} (h : (firstToken script).result = .ok token) :
    .ok token ∈ script := by
  induction script with
  | nil => cases h
  | cons first rest ih =>
    unfold firstToken at h
    split at h
    next same =>
      cases same
      exact List.mem_cons_of_mem _ (ih h)
    next => exact mem_of_next h

theorem keeps_statementAt (table : SymbolTable) (script : Script) :
    (statementAt table (firstToken script)).Keeps script script.Blames := by
  have first := keeps_firstToken script
  refine keeps_andThen (first.mono (List.Subset.refl _) fun _ => .expression) fun token taken => ?_
  have inside : .ok token :: (firstToken script).rest ⊆ script :=
    List.cons_subset.mpr ⟨mem_of_firstToken taken, first.rest⟩
  exact (keeps_statement table _).mono inside fun _ blamed => blamed.mono inside

theorem dropThroughSeparator_subset (script : Script) : dropThroughSeparator script ⊆ script := by
  induction script with
  | nil => exact List.Subset.refl _
  | cons first rest ih =>
    unfold dropThroughSeparator
    split
    next h => cases h
    next h =>
      cases h
      exact List.subset_cons_self _ _
    next h =>
      cases h
      exact fun _ mem => List.mem_cons_of_mem _ (ih mem)

end Script

end Calculator
