import Calculator.Proofs.Stream

namespace Calculator

theorem isWord_cons {first : Char} {rest : List Char} :
    isWord (first :: rest) ↔ isAlphabetic first ∧ ∀ c ∈ rest, isAlphanumeric c := by
  simp [isWord]

theorem exists_of_isWord {text : List Char} (h : isWord text) :
    ∃ first rest, text = first :: rest ∧ isAlphabetic first ∧ ∀ c ∈ rest, isAlphanumeric c := by
  cases text with
  | nil => cases h
  | cons first rest => exact ⟨first, rest, rfl, isWord_cons.mp h⟩

namespace Dialect

variable {dialect : Dialect} {word name : String}

theorem word_eq_declare : dialect.word word = .keyword .declare ↔ word = dialect.declareWord := by
  unfold Dialect.word
  split
  next same => simp [same]
  next other => split <;> simp [other]

theorem word_eq_quit : dialect.word word = .keyword .quit ↔
    word = dialect.quitWord ∧ word ≠ dialect.declareWord := by
  unfold Dialect.word
  split
  next same => simp [same]
  next other => split <;> simp_all

theorem word_eq_identifier : dialect.word word = .identifier name ↔
    name = word ∧ word ≠ dialect.declareWord ∧ word ≠ dialect.quitWord := by
  unfold Dialect.word
  split
  next same => simp [same]
  next other =>
    split
    next same => simp [same]
    next noQuit => simp [other, noQuit, eq_comm]

theorem word_ne_punct (dialect : Dialect) (word : String) (symbol : Symbol) :
    dialect.word word ≠ .punct symbol := by
  unfold Dialect.word
  split
  next => simp
  next => split <;> simp

end Dialect

/-- A token that is read is a symbol, a number that a literal stands for, or what a word stands
for. -/
theorem Source.token_cases {dialect : Dialect} {s t : Source} {token : Token}
    (h : Source.token dialect s = .ok token t) : (∃ symbol, token = .punct symbol) ∨
      (∃ value u, token = .number value ∧ number u = .ok value t) ∨
      ∃ word : String, isWord word.toList ∧ token = dialect.word word := by
  obtain ⟨c, u, _, h⟩ := Scan.bind_eq_ok.mp h
  cases c with
  | none => cases h
  | some c =>
    simp only [tokenFrom] at h
    cases hs : Symbol.ofChar? dialect.separator c with
    | some symbol =>
      rw [hs] at h
      cases h
      exact Or.inl ⟨symbol, rfl⟩
    | none =>
      simp only [hs] at h
      split at h
      next =>
        obtain ⟨_, v, _, h⟩ := Scan.bind_eq_ok.mp h
        obtain ⟨value, _, read, h⟩ := Scan.bind_eq_ok.mp h
        cases h
        exact Or.inr (Or.inl ⟨value, v, rfl, read⟩)
      next =>
        split at h
        next letter =>
          obtain ⟨more, _, taken, h⟩ := Scan.bind_eq_ok.mp h
          cases h
          have all := (takeWhile_ok taken).2.1
          refine Or.inr (Or.inr ⟨.ofList (c :: more), ?_, rfl⟩)
          rw [String.toList_ofList]
          exact isWord_cons.mpr ⟨letter, all⟩
        next => cases h

/-- A token that is no symbol and no number is what a word stands for. -/
theorem Source.word_of_token {dialect : Dialect} {s t : Source} {token : Token}
    (h : Source.token dialect s = .ok token t) (noSymbol : ∀ symbol, token ≠ .punct symbol)
    (noNumber : ∀ value, token ≠ .number value) :
    ∃ word : String, isWord word.toList ∧ token = dialect.word word := by
  rcases token_cases h with ⟨symbol, same⟩ | ⟨value, _, same, _⟩ | word
  · exact absurd same (noSymbol symbol)
  · exact absurd same (noNumber value)
  · exact word

namespace Tokenizer

variable {t : Tokenizer}

theorem word_of_next {token : Token} (free : t.held = none) (h : t.next.result = .ok token)
    (noSymbol : ∀ symbol, token ≠ .punct symbol) (noNumber : ∀ value, token ≠ .number value) :
    ∃ word : String, isWord word.toList ∧ token = t.dialect.word word := by
  simp only [next, free] at h
  cases read : t.source.token t.dialect with
  | ok other source =>
    rw [read] at h
    cases h
    exact Source.word_of_token read noSymbol noNumber
  | error fault source =>
    rw [read] at h
    cases h

theorem name_of_next {name : String} (free : t.held = none)
    (h : t.next.result = .ok (.identifier name)) :
    isWord name.toList ∧ name ≠ t.dialect.declareWord ∧ name ≠ t.dialect.quitWord := by
  obtain ⟨word, letters, same⟩ := word_of_next free h (by simp) (by simp)
  obtain ⟨rfl, noDeclare, noQuit⟩ := Dialect.word_eq_identifier.mp same.symm
  exact ⟨letters, noDeclare, noQuit⟩

/-- Where the keyword for a declaration is read, it is a word. -/
theorem declareWord_of_next (free : t.held = none)
    (h : t.next.result = .ok (.keyword .declare)) : isWord t.dialect.declareWord.toList := by
  obtain ⟨word, letters, same⟩ := word_of_next free h (by simp) (by simp)
  obtain rfl := Dialect.word_eq_declare.mp same.symm
  exact letters

/-- Where the keyword that ends a session is read, it is a word and not the other keyword. -/
theorem quitWord_of_next (free : t.held = none) (h : t.next.result = .ok (.keyword .quit)) :
    isWord t.dialect.quitWord.toList ∧ t.dialect.declareWord ≠ t.dialect.quitWord := by
  obtain ⟨word, letters, same⟩ := word_of_next free h (by simp) (by simp)
  obtain ⟨rfl, apart⟩ := Dialect.word_eq_quit.mp same.symm
  exact ⟨letters, apart.symm⟩

end Tokenizer

end Calculator
