import Calculator.Proofs.JoinedTexts
import Calculator.Proofs.NumberText

namespace Calculator

/-- A token as it is written in a statement. -/
def Token.written (dialect : Dialect) : Token → String
  | .punct symbol => .singleton (symbol.toChar dialect.separator)
  | .number value => floatText value
  | .keyword .declare => dialect.declareWord
  | .keyword .quit => dialect.quitWord
  | .identifier name => name

/-- Tokens written next to each other, with a space between any two. -/
def writtenTokens (dialect : Dialect) (tokens : List Token) : String :=
  " ".intercalate (tokens.map (Token.written dialect))

/-- A token that can be written: its number is finite and not negative, its name is a word and no
keyword. -/
inductive Token.Writable (dialect : Dialect) : Token → Prop where
  | punct (symbol : Symbol) : Writable dialect (.punct symbol)
  | number {value : Float} (finite : isFiniteFloat value = true)
    (positive : isNegative value = false) : Writable dialect (.number value)
  | keyword (word : Keyword) : Writable dialect (.keyword word)
  | identifier {name : String} (letters : isWord name.toList) (noDeclare : name ≠ dialect.declareWord)
    (noQuit : name ≠ dialect.quitWord) : Writable dialect (.identifier name)

section Writing

variable {dialect : Dialect}

theorem longestFront_of_numeral {text : List Char} (numeral : Numeral text) :
    LongestFront Numeral text text :=
  ⟨List.prefix_refl text, numeral, fun _ front _ => front.length_le⟩

/-- What is written for a token is a lexeme of the token. -/
theorem Token.Writable.lexeme (usable : dialect.Usable) {token : Token}
    (writable : token.Writable dialect) {rest : List Char} (halts : Halts rest) :
    Lexeme dialect (token.written dialect).toList rest (.ok token) := by
  cases writable with
  | punct symbol =>
    rw [written, String.toList_singleton]
    exact .symbol symbol rest
  | @number value finite positive =>
    obtain ⟨numeral, stands⟩ := numeral_floatText finite positive
    have longest := longestFront_of_numeral numeral
    exact .number (longest.append halts) stands finite
  | keyword word =>
    cases word with
    | declare => exact .declareWord (.of_halts usable.declareWord halts) String.ofList_toList
    | quit => exact .quitWord (.of_halts usable.quitWord halts) String.ofList_toList
  | identifier letters noDeclare noQuit => exact .of_name letters noDeclare noQuit halts

/-- Written tokens are cut into what was written for each. -/
theorem segmented_written (usable : dialect.Usable) {tokens : List Token}
    (writable : ∀ token ∈ tokens, token.Writable dialect) :
    Segmented dialect (writtenTokens dialect tokens).toList
      (tokens.map fun token => ((token.written dialect).toList, .ok token)) := by
  -- What follows a token is nothing, or the space in front of the next: each halts its lexeme.
  induction tokens with
  | nil => exact .done (by rintro c ⟨⟩)
  | cons token tokens ih =>
    obtain ⟨here, later⟩ := List.forall_mem_cons.mp writable
    cases tokens with
    | nil =>
      have last := Segmented.next (List.forall_mem_nil _) (here.lexeme usable halts_nil)
        (.done (List.forall_mem_nil _))
      rw [List.nil_append, List.append_nil] at last
      rw [writtenTokens, List.map_singleton, String.intercalate_singleton]
      exact last
    | cons second tokens =>
      have blank : isWhitespace ' ' := rfl
      have joined : (writtenTokens dialect (token :: second :: tokens)).toList =
          [] ++ ((token.written dialect).toList ++
            ' ' :: (writtenTokens dialect (second :: tokens)).toList) := by
        rw [writtenTokens, List.map_cons, List.map_cons, String.intercalate_cons_cons,
          String.toList_append, String.toList_append, List.append_assoc]
        rfl
      rw [joined]
      exact .next (List.forall_mem_nil _) (here.lexeme usable (halts_blank blank _))
        ((ih later).blank blank)

theorem scriptOf_written (usable : dialect.Usable) {tokens : List Token}
    (writable : ∀ token ∈ tokens, token.Writable dialect) :
    scriptOf dialect (encodeUtf8 (writtenTokens dialect tokens)) = tokens.map .ok := by
  have cut := segmented_written usable writable
  rw [← decodeLossy_encodeUtf8] at cut
  rw [scriptOf_segmented usable cut, List.map_map]
  rfl

end Writing

namespace Source

variable {dialect : Dialect} {s t : Source} {token : Token} {value : Float}

theorem number_ok_value (h : number s = .ok value t) :
    isFiniteFloat value = true ∧ isNegative value = false := by
  obtain ⟨taken, u, _, h⟩ := Scan.bind_eq_ok.mp h
  cases read : literalValue taken with
  | error cause =>
    rw [read] at h
    cases h
  | ok other =>
    rw [read] at h
    cases h
    unfold literalValue at read
    split at read
    next => cases read
    next stands =>
      split at read
      next finite =>
        cases read
        exact ⟨finite, isNegative_of_parseUnsigned? stands⟩
      next => cases read

theorem writable_word {word : String} (letters : isWord word.toList) :
    (dialect.word word).Writable dialect := by
  unfold Dialect.word
  split
  next => exact .keyword .declare
  next noDeclare =>
    split
    next => exact .keyword .quit
    next noQuit => exact .identifier letters noDeclare noQuit

/-- Every token that is read can be written. -/
theorem writable_of_token (h : s.token dialect = .ok token t) : token.Writable dialect := by
  rcases token_cases h with ⟨symbol, rfl⟩ | ⟨value, u, rfl, read⟩ | ⟨word, letters, rfl⟩
  · exact .punct symbol
  · obtain ⟨finite, positive⟩ := number_ok_value read
    exact .number finite positive
  · exact writable_word letters

end Source

namespace Tokenizer

variable {t : Tokenizer} {token : Token}

theorem writable_of_next (free : t.held = none) (h : t.next.result = .ok token) :
    token.Writable t.dialect := by
  simp only [next, free] at h
  cases read : t.source.token t.dialect with
  | ok other source =>
    rw [read] at h
    cases h
    exact Source.writable_of_token read
  | error fault source =>
    rw [read] at h
    cases h

theorem writable_of_mem_stream {t : Tokenizer} (free : t.held = none)
    (listed : .ok token ∈ t.stream) : token.Writable t.dialect := by
  have later : .ok token ∈ t.next.tokens.stream → t.next.tokens.size < t.size →
      token.Writable t.dialect := by
    intro listed less
    rw [← dialect_next t]
    exact writable_of_mem_stream (held_next t) listed
  cases result : t.next.result with
  | ok first =>
    rw [stream_of_ok result] at listed
    rcases List.mem_cons.mp listed with same | listed
    · cases same
      exact writable_of_next free result
    · exact later listed (size_next_ok result)
  | error fault =>
    by_cases recoverable : fault.recoverable = true
    · rw [stream_of_recoverable result recoverable] at listed
      rcases List.mem_cons.mp listed with same | listed
      · cases same
      · exact later listed (size_next_error result recoverable)
    · rw [stream_of_final result (by simpa using recoverable)] at listed
      split at listed
      next => cases listed
      next => cases List.mem_singleton.mp listed
termination_by t.size

end Tokenizer

/-- The tokens of a list of tokens and faults. -/
def Script.tokens (script : Script) : List Token := script.filterMap Except.toOption

theorem Script.mem_tokens {script : Script} {token : Token} (h : token ∈ script.tokens) :
    .ok token ∈ script := by
  obtain ⟨item, listed, same⟩ := List.mem_filterMap.mp h
  cases item with
  | ok other =>
    cases same
    exact listed
  | error fault => cases same

/-- Written tokens are read again as these tokens. All tokens that are read can be written, so
reading, writing and reading gives the tokens that were read first. -/
theorem tokens_survive_writing {dialect : Dialect} (accepted : dialect.check = .ok ()) :
    (∀ tokens : List Token, (∀ token ∈ tokens, token.Writable dialect) →
      scriptOf dialect (encodeUtf8 (writtenTokens dialect tokens)) = tokens.map .ok) ∧
    (∀ (s t : Source) (token : Token), s.token dialect = .ok token t → token.Writable dialect) ∧
    ∀ source : Source,
      let tokens := Script.tokens (Tokenizer.ofSource dialect source).stream
      (∀ token ∈ tokens, token.Writable dialect) ∧
        scriptOf dialect (encodeUtf8 (writtenTokens dialect tokens)) = tokens.map .ok := by
  have usable := Dialect.check_eq_ok.mp accepted
  have again : ∀ tokens : List Token, (∀ token ∈ tokens, token.Writable dialect) →
      scriptOf dialect (encodeUtf8 (writtenTokens dialect tokens)) = tokens.map .ok :=
    fun tokens => scriptOf_written usable
  refine ⟨again, fun s t token => Source.writable_of_token, fun source => ?_⟩
  have writable : ∀ token ∈ Script.tokens (Tokenizer.ofSource dialect source).stream,
      token.Writable dialect := by
    intro token listed
    exact Tokenizer.writable_of_mem_stream (t := .ofSource dialect source) rfl
      (Script.mem_tokens listed)
  exact ⟨writable, again _ writable⟩

/-- The least number above zero is written with more than three hundred zeros. -/
theorem tokens_survive_writing_least_number : Dialect.check {} = .ok () ∧
    ∃ tokens : List Token, tokens = [.keyword .declare, .identifier "x", .punct .equal,
        .punct .minus, .number (floatOfBits false 1), .punct .separator, .keyword .quit] ∧
      (∀ token ∈ tokens, token.Writable {}) ∧
      scriptOf {} (encodeUtf8 (writtenTokens {} tokens)) = tokens.map .ok := by
  have finite := @isFiniteFloat_floatOfBits 1 (by decide) false
  have number : Token.Writable {} (.number (floatOfBits false 1)) :=
    .number finite (isNegative_floatOfBits (by decide) false)
  have name : Token.Writable {} (.identifier "x") := .identifier rfl (by decide) (by decide)
  have writable : ∀ token ∈ [Token.keyword .declare, .identifier "x", .punct .equal,
      .punct .minus, .number (floatOfBits false 1), .punct .separator, .keyword .quit],
      token.Writable {} := by
    simp only [List.forall_mem_cons, List.not_mem_nil, false_implies, implies_true, and_true]
    exact ⟨.keyword _, name, .punct _, .punct _, number, .punct _, .keyword _⟩
  exact ⟨rfl, _, rfl, writable, (tokens_survive_writing rfl).1 _ writable⟩

end Calculator
