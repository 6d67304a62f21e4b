import Calculator.Proofs.TextPositions
import Calculator.Proofs.UsableNames
import Calculator.Proofs.WorkableDialects
import Calculator.Proofs.WrittenTokens

namespace Calculator

/-- The tokens of a printed number: itself, or a minus sign and its opposite. -/
def printedTokens (x : Float) : List Token :=
  if isNegative x then [.punct .minus, .number (-x)] else [.number x]

variable {dialect : Dialect} {x : Float} {rest : List Char}

/-- What is printed of a number, and halted, is cut into the tokens of the number: all its digits
are one of them. -/
theorem segmented_floatText (usable : dialect.Usable) (finite : isFiniteFloat x = true)
    (halts : Halts rest) {further : List (List Char × Except Fault Token)}
    (cut : Segmented dialect rest further) :
    ∃ lexemes, Segmented dialect ((floatText x).toList ++ rest) (lexemes ++ further) ∧
      lexemes.map Prod.snd = (printedTokens x).map .ok := by
  cases sign : isNegative x with
  | false =>
    have number := Token.Writable.lexeme usable (.number finite sign) halts
    refine ⟨[_], .next (List.forall_mem_nil _) number cut, ?_⟩
    rw [printedTokens, sign, if_neg Bool.false_ne_true]
    rfl
  | true =>
    obtain ⟨positive, text⟩ := toList_floatText_negative finite sign
    have number := Token.Writable.lexeme usable (.number (isFiniteFloat_neg finite) positive) halts
    have digits : Segmented dialect ((floatText (-x)).toList ++ rest) _ :=
      .next (List.forall_mem_nil _) number cut
    have minus : Lexeme dialect ['-'] ((floatText (-x)).toList ++ rest) (.ok (.punct .minus)) :=
      .symbol .minus _
    rw [text]
    refine ⟨[_, _], .next (List.forall_mem_nil _) minus digits, ?_⟩
    rw [printedTokens, sign, if_pos rfl]
    rfl

/-- A number is printed as tokens, and no statement but an expression starts with the first. -/
theorem exists_printedTokens (x : Float) : ∃ first more, printedTokens x = first :: more ∧
    first ≠ .punct .separator ∧ first ≠ .keyword .declare ∧ first ≠ .keyword .quit := by
  unfold printedTokens
  split
  next => exact ⟨_, _, rfl, nofun, nofun, nofun⟩
  next => exact ⟨_, _, rfl, nofun, nofun, nofun⟩

namespace Script

theorem firstToken_of_ne {token : Token} (noSeparator : token ≠ .punct .separator)
    (rest : Script) : firstToken (.ok token :: rest) = ⟨.ok token, rest⟩ := by
  rw [firstToken_eq, next, Reading.andThen_ok]
  split
  next => exact absurd rfl noSeparator
  next => rfl

theorem statement_of_ne {token : Token} (noDeclare : token ≠ .keyword .declare)
    (table : SymbolTable) (rest : Script) : statement table (.ok token :: rest) =
      (expression table (.ok token :: rest)).andThen
        fun value rest => ⟨.ok ⟨value, table⟩, rest⟩ := by
  rw [statement, next, Reading.andThen_ok]
  split
  next => exact absurd rfl noDeclare
  next => rfl

theorem evaluate_closed (table : SymbolTable) (value : Float) (rest : Script) :
    evaluate table (.operator value) [] (separator :: rest) = ⟨.ok value, separator :: rest⟩ := rfl

/-- The tokens of a printed number have the number for their value: a minus sign undoes the one
that was printed. -/
theorem expression_printed (table : SymbolTable) (finite : isFiniteFloat x = true)
    (rest : Script) :
    expression table ((printedTokens x).map .ok ++ separator :: rest) =
      ⟨.ok x, separator :: rest⟩ := by
  unfold printedTokens
  split
  next =>
    have minus : evaluate table .operand []
        (.ok (.punct .minus) :: .ok (.number (-x)) :: separator :: rest) =
          evaluate table (.operator (-(-x))) [] (separator :: rest) := rfl
    rw [neg_neg_of_finite finite, evaluate_closed] at minus
    exact minus
  next => exact evaluate_closed table x rest

/-- The first token of a printed number starts a statement, which has the number for its value and
leaves the separator. -/
theorem firstToken_printed (table : SymbolTable) (finite : isFiniteFloat x = true)
    (rest : Script) :
    let first := firstToken ((printedTokens x).map .ok ++ separator :: rest)
    (∃ token, first.result = .ok token ∧ token ≠ .keyword .quit) ∧
      (first.andThen fun token rest => statement table (.ok token :: rest)) =
        ⟨.ok ⟨x, table⟩, separator :: rest⟩ := by
  have evaluated := expression_printed table finite rest
  obtain ⟨first, more, listed, noSeparator, noDeclare, noQuit⟩ := exists_printedTokens x
  rw [listed, List.map_cons, List.cons_append] at evaluated ⊢
  rw [firstToken_of_ne noSeparator]
  refine ⟨⟨first, rfl, noQuit⟩, ?_⟩
  rw [Reading.andThen_ok, statement_of_ne noDeclare, evaluated, Reading.andThen_ok]

end Script

namespace Sink

/-- There is room for two texts together if there is room for one and then for the other. -/
theorem complete_write_append (sink : Sink) (a b : String) :
    (sink.write (a ++ b)).complete = true ↔
      (sink.write a).complete = true ∧ ((sink.write a).sink.write b).complete = true := by
  obtain ⟨none | room⟩ := sink
  · exact ⟨fun _ => ⟨rfl, rfl⟩, fun _ => rfl⟩
  · simp only [write, encodeUtf8_append, List.length_append, decide_eq_true_eq]
    omega

theorem kept_of_complete {sink : Sink} {text : String}
    (complete : (sink.write text).complete = true) : (sink.write text).kept = encodeUtf8 text := by
  rcases sink.write_cases text with ⟨_, kept⟩ | ⟨_, incomplete, _⟩
  · exact kept
  · cases complete.symm.trans incomplete

end Sink

namespace Session

variable {s : Session}

/-- A turn whose statement has a value, and whose output has room for the prompt and the result,
writes both and nothing else. -/
theorem turn_of_room {token : Token} {evaluated : Evaluated}
    (first : s.tokens.firstToken.result = .ok token) (noQuit : token ≠ .keyword .quit)
    (h : (Tokenizer.statementAt s.table s.tokens.firstToken).result = .ok evaluated)
    (room : (s.out.write (s.settings.prompt ++
      (s.settings.resultMarker ++ floatText evaluated.value ++ "\n"))).complete = true) :
    s.turn.how = .evaluated ∧
      s.turn.out = encodeUtf8 (s.settings.prompt ++
        (s.settings.resultMarker ++ floatText evaluated.value ++ "\n")) ∧
      s.turn.err = [] ∧ announcements s.turn.trace = [.value evaluated.value] ∧
      s.turn.session.table = evaluated.table := by
  obtain ⟨prompted, shown⟩ := (Sink.complete_write_append _ _ _).mp room
  have quiet := (journey_calm.statementAt s.table s.tokens).2.2
  rw [turn_eq_showValue first noQuit h prompted]
  refine ⟨if_pos shown, ?_, rfl, ?_, rfl⟩
  · have kept := Sink.kept_of_complete shown
    rw [encodeUtf8_append, ← Sink.kept_of_complete prompted, ← kept]
    rfl
  · rw [announcements_append, quiet]
    rfl

theorem Onward.intact {after : Session} (onward : s.Onward after)
    (intact : s.tokens.Intact dialect) : after.tokens.Intact dialect :=
  ⟨onward.dialect.trans intact.same, intact.usable, intact.source.of_leads onward.leads⟩

/-- A printed number, typed in front of a separator, is a statement with that number for its
value. -/
theorem statementAt_printed {front : List Char} (intact : s.tokens.Intact dialect)
    (finite : isFiniteFloat x = true)
    (skipped : ∀ c ∈ front, isWhitespace c ∨ c = dialect.separator)
    (read : s.tokens.ToRead (front ++ ((floatText x).toList ++ dialect.separator :: rest))) :
    (∃ token, s.tokens.firstToken.result = .ok token ∧ token ≠ .keyword .quit) ∧
      (Tokenizer.statementAt s.table s.tokens.firstToken).result = .ok ⟨x, s.table⟩ := by
  obtain ⟨behind, cut⟩ := exists_segmented intact.usable rest
  have close : Segmented dialect (dialect.separator :: rest) _ :=
    .next (List.forall_mem_nil _) (.symbol .separator rest) cut
  obtain ⟨lexemes, whole, printed⟩ :=
    segmented_floatText intact.usable finite (intact.usable.halts rest) close
  obtain ⟨first, statement⟩ := intact.reading_behind skipped read whole s.table
  have evaluated := Script.firstToken_printed s.table finite
    (behind.map Prod.snd ++ s.tokens.source.ending)
  rw [List.map_append, printed, List.map_cons, List.append_assoc,
    List.cons_append] at first statement
  obtain ⟨⟨token, taken, noQuit⟩, value⟩ := evaluated
  exact ⟨⟨token, (congrArg Reading.result first).trans taken, noQuit⟩,
    congrArg Reading.result (statement.trans value)⟩

end Session

/-- Printed results can be typed back: wherever a session comes to a statement that is the text of
a finite number, the statement has this very number for its value, and prints the text again. -/
theorem printed_results_read_back {settings : Settings}
    (accepted : settings.dialect.check = .ok ()) (bytes : List UInt8) (failure : Option String)
    (out err : Sink) :
    ∃ first, Session.start settings (.ofBytes bytes failure) out err = .ok first ∧
      ∀ s, first.Visits s → ∀ x, isFiniteFloat x = true → ∀ front rest,
        (∀ c ∈ front, isWhitespace c ∨ c = settings.dialect.separator) →
        s.tokens.ToRead (front ++ ((floatText x).toList ++ settings.dialect.separator :: rest)) →
        (Tokenizer.statementAt s.table s.tokens.firstToken).result = .ok ⟨x, s.table⟩ ∧
          let written := settings.prompt ++ (settings.resultMarker ++ floatText x ++ "\n")
          ((s.out.write written).complete = true →
            s.turn.how = .evaluated ∧ s.turn.out = encodeUtf8 written ∧ s.turn.err = [] ∧
              announcements s.turn.trace = [.value x] ∧ s.turn.session.table = s.table) := by
  refine ⟨_, Session.start_eq accepted _ out err, ?_⟩
  intro s visits x finite front rest skipped read
  have intact := visits.onward.intact (Tokenizer.intact_ofBytes accepted bytes failure)
  obtain ⟨⟨token, first, noQuit⟩, statement⟩ :=
    Session.statementAt_printed intact finite skipped read
  have turn := Session.turn_of_room first noQuit statement
  rw [visits.onward.settings] at turn
  exact ⟨statement, turn⟩

/-- Zero with a minus sign is printed with it, and read back with it. -/
theorem printed_results_read_back_negative_zero : Dialect.check {} = .ok () ∧
    ∃ first, Session.start {} (.ofBytes (encodeUtf8 "-0;") none) .unlimited .unlimited =
        .ok first ∧
      (Tokenizer.statementAt first.table first.tokens.firstToken).result =
        .ok ⟨floatOfBits true 0, first.table⟩ ∧
      first.turn.out = encodeUtf8 "> = -0\n" := by
  obtain ⟨first, started, holds⟩ :=
    @printed_results_read_back {} rfl (encodeUtf8 "-0;") none .unlimited .unlimited
  have same := started
  rw [Session.start_eq rfl] at same
  cases same
  have finite := @isFiniteFloat_floatOfBits 0 (by decide) true
  have text : floatText (floatOfBits true 0) = "-0" := by
    refine String.toList_inj.mp ?_
    rw [toList_floatText finite, isNegative_floatOfBits (Nat.zero_le _),
      magnitudeBits_floatOfBits (Nat.zero_le _)]
    rfl
  have read : (Tokenizer.ofSource {} (.ofBytes (encodeUtf8 "-0;") none)).ToRead "-0;".toList := by
    rw [← unread_of_text "-0;"]
    exact .source rfl
  obtain ⟨statement, turn⟩ := holds _ .here _ finite [] [] (List.forall_mem_nil _)
    (by rw [text]; exact read)
  obtain ⟨_, written, _⟩ := turn rfl
  rw [text] at written
  exact ⟨rfl, _, started, statement, written⟩

end Calculator
