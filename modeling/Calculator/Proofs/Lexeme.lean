import Calculator.Proofs.CharacterClasses
import Calculator.Proofs.TextScan

namespace Calculator

/-- A letter and all the letters and numbers behind it. -/
def WordRun (lexeme rest : List Char) : Prop :=
  ∃ first more, lexeme = first :: more ∧ isAlphabetic first ∧ (∀ c ∈ more, isAlphanumeric c) ∧
    ∀ c after, rest = c :: after → isAlphanumeric c = false

/-- The lexeme that a text starts with, given apart from the rest of the text, and what is read
there. -/
inductive Lexeme (dialect : Dialect) : List Char → List Char → Except Fault Token → Prop where
  | symbol (symbol : Symbol) (rest : List Char) :
    Lexeme dialect [symbol.toChar dialect.separator] rest (.ok (.punct symbol))
  | number {lexeme rest : List Char} {value : Float}
    (longest : LongestFront Numeral (lexeme ++ rest) lexeme)
    (stands : parseUnsigned? lexeme = some value) (finite : isFiniteFloat value = true) :
    Lexeme dialect lexeme rest (.ok (.number value))
  | outOfRange {lexeme rest : List Char} {value : Float}
    (longest : LongestFront Numeral (lexeme ++ rest) lexeme)
    (stands : parseUnsigned? lexeme = some value) (infinite : isFiniteFloat value = false) :
    Lexeme dialect lexeme rest (.error (.lexical (.outOfRange (.ofList lexeme))))
  | lonePoint {rest : List Char} (alone : ∀ c after, rest = c :: after → c.isDigit = false) :
    Lexeme dialect ['.'] rest (.error (.lexical (.noDigits ".")))
  | declareWord {lexeme rest : List Char} (run : WordRun lexeme rest)
    (same : .ofList lexeme = dialect.declareWord) :
    Lexeme dialect lexeme rest (.ok (.keyword .declare))
  | quitWord {lexeme rest : List Char} (run : WordRun lexeme rest)
    (same : .ofList lexeme = dialect.quitWord) :
    Lexeme dialect lexeme rest (.ok (.keyword .quit))
  | identifier {lexeme rest : List Char} (run : WordRun lexeme rest)
    (noDeclare : .ofList lexeme ≠ dialect.declareWord)
    (noQuit : .ofList lexeme ≠ dialect.quitWord) :
    Lexeme dialect lexeme rest (.ok (.identifier (.ofList lexeme)))
  | badToken {c : Char} {rest : List Char} (noBlank : isWhitespace c = false)
    (noSymbol : ∀ symbol : Symbol, symbol.toChar dialect.separator ≠ c)
    (noDigit : c.isDigit = false) (noPoint : c ≠ '.') (noLetter : isAlphabetic c = false) :
    Lexeme dialect [c] rest (.error (.lexical (.badToken c)))

/-- A text cut into blanks and lexemes, with what is read at each lexeme. -/
inductive Segmented (dialect : Dialect) :
    List Char → List (List Char × Except Fault Token) → Prop where
  | done {blanks : List Char} (blank : ∀ c ∈ blanks, isWhitespace c) : Segmented dialect blanks []
  | next {blanks lexeme rest : List Char} {result : Except Fault Token}
    {more : List (List Char × Except Fault Token)} (blank : ∀ c ∈ blanks, isWhitespace c)
    (here : Lexeme dialect lexeme rest result) (further : Segmented dialect rest more) :
    Segmented dialect (blanks ++ (lexeme ++ rest)) ((lexeme, result) :: more)

theorem Numeral.head {text : List Char} (h : Numeral text) :
    ∃ c rest, text = c :: rest ∧ (c.isDigit ∨ c = '.') := by
  obtain ⟨whole, fraction, exponent, rfl, all, hf, _, d, hd, _⟩ := h
  cases whole with
  | cons c whole => exact ⟨c, _, rfl, Or.inl (all c List.mem_cons_self)⟩
  | nil =>
    cases hf with
    | absent => cases hd
    | point => exact ⟨'.', _, rfl, Or.inr rfl⟩

/-- No lexeme is empty, and none starts with a blank. -/
theorem Lexeme.head {dialect : Dialect} (usable : dialect.Usable) {lexeme rest : List Char}
    {result : Except Fault Token} (h : Lexeme dialect lexeme rest result) :
    ∃ c more, lexeme = c :: more ∧ isWhitespace c = false := by
  have numeral : Numeral lexeme → ∃ c more, lexeme = c :: more ∧ isWhitespace c = false := by
    intro hn
    obtain ⟨c, more, rfl, digit | rfl⟩ := hn.head
    · exact ⟨c, more, rfl, isWhitespace_of_isAlphanumeric (isAlphanumeric_of_isDigit digit)⟩
    · exact ⟨'.', more, rfl, (classes_of_isReserved rfl).2⟩
  have word : WordRun lexeme rest → ∃ c more, lexeme = c :: more ∧ isWhitespace c = false := by
    rintro ⟨c, more, rfl, letter, _⟩
    exact ⟨c, more, rfl, isWhitespace_of_isAlphanumeric (isAlphanumeric_of_isAlphabetic letter)⟩
  cases h with
  | symbol symbol => exact ⟨_, [], rfl, (usable.classes_toChar symbol).2⟩
  | number longest => exact numeral longest.2.1
  | outOfRange longest => exact numeral longest.2.1
  | lonePoint => exact ⟨'.', [], rfl, (classes_of_isReserved rfl).2⟩
  | declareWord run => exact word run
  | quitWord run => exact word run
  | identifier run => exact word run
  | badToken noBlank => exact ⟨_, [], rfl, noBlank⟩

/-- A session recovers from each fault that a lexeme is. -/
theorem Lexeme.recoverable {dialect : Dialect} {lexeme rest : List Char} {fault : Fault}
    (h : Lexeme dialect lexeme rest (.error fault)) : fault.recoverable = true := by
  cases h <;> rfl

namespace Source

/-- What a reader comes to that reads `result` and leaves `t`. -/
def reading (result : Except Fault Token) (t : Source) : EStateM.Result Fault Source Token :=
  match result with
  | .ok token => .ok token t
  | .error fault => .error fault t

theorem nextNonBlank_of_next {s t : Source} {c : Char} (h : next s = .ok (some c) t) :
    nextNonBlank s = if isWhitespace c then nextNonBlank t else .ok (some c) t := by
  rw [nextNonBlank]
  split
  next d u taken =>
    cases h.symm.trans taken
    rfl
  next u taken => cases h.symm.trans taken
  next fault u taken => cases h.symm.trans taken

theorem nextNonBlank_of_blanks {blanks : List Char} {c : Char} {text : List Char} {s : Source}
    (blank : ∀ d ∈ blanks, isWhitespace d) (dark : isWhitespace c = false)
    (hu : s.unread = blanks ++ c :: text) :
    ∃ t, nextNonBlank s = .ok (some c) t ∧ t.unread = text := by
  induction blanks generalizing s with
  | nil =>
    obtain ⟨t, seen, left⟩ := next_of_unread_cons hu
    refine ⟨t, ?_, left⟩
    rw [nextNonBlank_of_next seen, if_neg (by simp [dark])]
  | cons d blanks ih =>
    obtain ⟨u, seen, left⟩ := next_of_unread_cons hu
    obtain ⟨t, found, after⟩ := ih (fun e he => blank e (List.mem_cons_of_mem d he)) left
    refine ⟨t, ?_, after⟩
    rw [nextNonBlank_of_next seen, if_pos (blank d List.mem_cons_self)]
    exact found

theorem tokenFrom_symbol {dialect : Dialect} (usable : dialect.Usable) (symbol : Symbol)
    (t : Source) : tokenFrom dialect (symbol.toChar dialect.separator) t =
      .ok (.punct symbol) t := by
  simp only [tokenFrom, usable.ofChar?_toChar symbol]
  rfl

theorem tokenFrom_numeral {dialect : Dialect} {c : Char}
    (noSymbol : Symbol.ofChar? dialect.separator c = none) (start : c.isDigit ∨ c = '.')
    (t : Source) :
    tokenFrom dialect c t = (number >>= fun value => pure (Token.number value)) (putBack c t) := by
  simp only [tokenFrom, noSymbol, if_pos start]
  rfl

theorem tokenFrom_word {dialect : Dialect} {c : Char} {more rest : List Char}
    (noSymbol : Symbol.ofChar? dialect.separator c = none)
    (letter : isAlphabetic c) (all : ∀ d ∈ more, isAlphanumeric d)
    (stop : ∀ d after, rest = d :: after → isAlphanumeric d = false) {t : Source}
    (normal : t.failure = none) (hu : t.unread = more ++ rest) :
    ∃ u, tokenFrom dialect c t = .ok (dialect.word (.ofList (c :: more))) u ∧ u.unread = rest := by
  have noNumeral : ¬(c.isDigit ∨ c = '.') := by
    rintro (digit | rfl)
    · rw [isAlphabetic_of_isDigit digit] at letter
      cases letter
    · rw [isAlphabetic_of_lt (by decide)] at letter
      cases letter
  obtain ⟨u, taken, left⟩ := takeWhile_normal isAlphanumeric normal
  have first : t.unread.takeWhile isAlphanumeric = more := by
    rw [hu, List.takeWhile_append_of_pos all]
    cases rest with
    | nil => simp
    | cons d after => simp [stop d after rfl]
  have second : t.unread.dropWhile isAlphanumeric = rest := by
    rw [hu, List.dropWhile_append_of_pos all]
    cases rest with
    | nil => rfl
    | cons d after => simp [stop d after rfl]
  rw [first] at taken
  rw [second] at left
  refine ⟨u, ?_, left⟩
  simp only [tokenFrom, noSymbol, if_neg noNumeral, if_pos letter]
  exact Scan.bind_eq_ok.mpr ⟨_, _, taken, rfl⟩

/-- A literal that stands for a double is read as the double, unless that is infinite. -/
theorem number_of_literal {s t : Source} {lexeme : List Char} {value : Float}
    (taken : literal s = .ok lexeme t) (stands : parseUnsigned? lexeme = some value) :
    number s = if isFiniteFloat value then .ok value t
      else .error (.lexical (.outOfRange (.ofList lexeme))) t := by
  by_cases finite : isFiniteFloat value
  · have read : literalValue lexeme = .ok value := by simp [literalValue, stands, finite]
    rw [if_pos finite]
    exact Scan.bind_eq_ok.mpr ⟨_, _, taken, by rw [read]; rfl⟩
  · have read : literalValue lexeme = .error (.outOfRange (.ofList lexeme)) := by
      simp [literalValue, stands, finite]
    rw [if_neg finite]
    exact Scan.bind_eq_error.mpr (Or.inr ⟨_, _, taken, by rw [read]; rfl⟩)

/-- The literal at a source is the longest numeral that its text starts with. -/
theorem literal_of_numeral {s : Source} {lexeme : List Char} (whole : s.Whole)
    (normal : s.failure = none) (longest : LongestFront Numeral s.unread lexeme) :
    ∃ t, literal s = .ok lexeme t ∧ s.unread = lexeme ++ t.unread := by
  have taken := literal_normal whole normal
  rw [if_pos (any_digit_of_numeral longest.2.1 longest.1), longest.numeralOf_eq] at taken
  obtain ⟨t, taken⟩ := taken
  exact ⟨t, taken, (literal_ok taken).1⟩

theorem number_of_numeral {s : Source} {lexeme rest : List Char} {value : Float} (whole : s.Whole)
    (normal : s.failure = none) (hu : s.unread = lexeme ++ rest)
    (longest : LongestFront Numeral (lexeme ++ rest) lexeme)
    (stands : parseUnsigned? lexeme = some value) :
    ∃ t, t.unread = rest ∧ number s = if isFiniteFloat value then .ok value t
      else .error (.lexical (.outOfRange (.ofList lexeme))) t := by
  obtain ⟨t, taken, split⟩ := literal_of_numeral whole normal (hu ▸ longest)
  rw [hu] at split
  exact ⟨t, (List.append_cancel_left split).symm, number_of_literal taken stands⟩

theorem number_of_lone_point {s : Source} {rest : List Char} (whole : s.Whole)
    (normal : s.failure = none) (hu : s.unread = '.' :: rest)
    (alone : ∀ c after, rest = c :: after → c.isDigit = false) :
    ∃ t, t.unread = rest ∧ number s = .error (.lexical (.noDigits ".")) t := by
  have mantissa : mantissaOf s.unread = ['.'] := by
    rw [hu]
    cases rest with
    | nil => rfl
    | cons c after =>
      have noDigit : (c :: after).takeWhile Char.isDigit = [] := by simp [alone c after rfl]
      have read : mantissaOf ('.' :: c :: after) = '.' :: (c :: after).takeWhile Char.isDigit := rfl
      rw [read, noDigit]
  have taken := literal_normal whole normal
  rw [mantissa, if_neg (by decide), hu] at taken
  obtain ⟨t, taken, split⟩ := taken
  refine ⟨t, (List.cons.inj split).2.symm, ?_⟩
  exact Scan.bind_eq_error.mpr (Or.inl taken)

theorem tokenFrom_of_numeral {dialect : Dialect} {t : Source} {c : Char} {more rest : List Char}
    {value : Float} (noSymbol : Symbol.ofChar? dialect.separator c = none)
    (whole : (putBack c t).Whole)
    (normal : (putBack c t).failure = none) (hu : (putBack c t).unread = c :: more ++ rest)
    (longest : LongestFront Numeral (c :: more ++ rest) (c :: more))
    (stands : parseUnsigned? (c :: more) = some value) :
    ∃ u, u.unread = rest ∧ tokenFrom dialect c t = if isFiniteFloat value then .ok (.number value) u
      else .error (.lexical (.outOfRange (.ofList (c :: more)))) u := by
  obtain ⟨u, left, read⟩ := number_of_numeral whole normal hu longest stands
  obtain ⟨d, _, hd, start⟩ := longest.2.1.head
  obtain ⟨rfl, _⟩ := List.cons.inj hd
  refine ⟨u, left, ?_⟩
  rw [tokenFrom_numeral noSymbol start]
  by_cases finite : isFiniteFloat value
  · rw [if_pos finite] at read ⊢
    exact Scan.bind_eq_ok.mpr ⟨_, _, read, rfl⟩
  · rw [if_neg finite] at read ⊢
    exact Scan.bind_eq_error.mpr (Or.inl read)

theorem tokenFrom_bad {dialect : Dialect} {c : Char}
    (noSymbol : ∀ symbol : Symbol, symbol.toChar dialect.separator ≠ c)
    (noDigit : c.isDigit = false) (noPoint : c ≠ '.') (noLetter : isAlphabetic c = false)
    (t : Source) : tokenFrom dialect c t = .error (.lexical (.badToken c)) t := by
  simp only [tokenFrom, Symbol.ofChar?_eq_none noSymbol]
  rw [if_neg (by simp [noDigit, noPoint]), if_neg (by simp [noLetter])]
  rfl

/-- From its first character on, which has just been taken, a lexeme is read as what it is. -/
theorem tokenFrom_of_lexeme {dialect : Dialect} (usable : dialect.Usable) {t : Source} {c : Char}
    {more rest : List Char} {result : Except Fault Token} (whole : t.Whole)
    (normal : t.failure = none) (behind : 0 < t.pos) (value : t.line[t.pos - 1]? = some c)
    (hu : t.unread = more ++ rest) (here : Lexeme dialect (c :: more) rest result) :
    ∃ u, tokenFrom dialect c t = reading result u ∧ u.unread = rest := by
  have leads := leads_putBack behind value
  have back : (putBack c t).unread = c :: more ++ rest := by
    rw [unread_putBack_of_getElem? behind value, hu, List.cons_append]
  have word : WordRun (c :: more) rest → ∃ u,
      tokenFrom dialect c t = .ok (dialect.word (.ofList (c :: more))) u ∧ u.unread = rest := by
    rintro ⟨_, _, hc, letter, all, stop⟩
    obtain ⟨rfl, rfl⟩ := List.cons.inj hc
    have noSymbol := usable.ofChar?_eq_none (Or.inl (isAlphanumeric_of_isAlphabetic letter))
    exact tokenFrom_word noSymbol letter all stop normal hu
  have numeral : Numeral (c :: more) → Symbol.ofChar? dialect.separator c = none := by
    intro h
    obtain ⟨_, _, hc, start⟩ := h.head
    obtain ⟨rfl, _⟩ := List.cons.inj hc
    exact usable.ofChar?_eq_none (start.imp_left isAlphanumeric_of_isDigit)
  cases here with
  | symbol symbol => exact ⟨t, tokenFrom_symbol usable symbol t, hu⟩
  | number longest stands finite =>
    obtain ⟨u, left, read⟩ := tokenFrom_of_numeral (numeral longest.2.1) (whole.of_leads leads)
      (normal_of_leads normal leads) back longest stands
    exact ⟨u, by rw [read, if_pos finite]; rfl, left⟩
  | outOfRange longest stands infinite =>
    obtain ⟨u, left, read⟩ := tokenFrom_of_numeral (numeral longest.2.1) (whole.of_leads leads)
      (normal_of_leads normal leads) back longest stands
    exact ⟨u, by rw [read, if_neg (by simp [infinite])]; rfl, left⟩
  | lonePoint alone =>
    obtain ⟨u, left, read⟩ := number_of_lone_point (whole.of_leads leads)
      (normal_of_leads normal leads) back alone
    refine ⟨u, ?_, left⟩
    rw [tokenFrom_numeral (usable.ofChar?_eq_none (Or.inr rfl)) (Or.inr rfl)]
    exact Scan.bind_eq_error.mpr (Or.inl read)
  | declareWord run same =>
    obtain ⟨u, read, left⟩ := word run
    exact ⟨u, by rw [read, Dialect.word, if_pos same]; rfl, left⟩
  | quitWord run same =>
    obtain ⟨u, read, left⟩ := word run
    have noDeclare : String.ofList (c :: more) ≠ dialect.declareWord := by
      rw [same]
      exact usable.apart.symm
    exact ⟨u, by rw [read, Dialect.word, if_neg noDeclare, if_pos same]; rfl, left⟩
  | identifier run noDeclare noQuit =>
    obtain ⟨u, read, left⟩ := word run
    exact ⟨u, by rw [read, Dialect.word, if_neg noDeclare, if_neg noQuit]; rfl, left⟩
  | badToken _ noSymbol noDigit noPoint noLetter =>
    exact ⟨t, tokenFrom_bad noSymbol noDigit noPoint noLetter t, hu⟩

/-- A token starts with the first character that is not blank. -/
theorem token_of_blanks (dialect : Dialect) {s : Source} {blanks text : List Char} {c : Char}
    (blank : ∀ d ∈ blanks, isWhitespace d) (dark : isWhitespace c = false)
    (hu : s.unread = blanks ++ c :: text) :
    ∃ t, token dialect s = tokenFrom dialect c t ∧ t.unread = text ∧ s.Leads t ∧
      0 < t.pos ∧ t.line[t.pos - 1]? = some c := by
  obtain ⟨t, found, left⟩ := nextNonBlank_of_blanks blank dark hu
  obtain ⟨_, behind, value, _⟩ := nextNonBlank_some found
  refine ⟨t, ?_, left, (reaches_nextNonBlank s).leads found, behind, value⟩
  simp only [token, bind, EStateM.bind, found]

/-- A reader reads the lexeme behind the blanks, and is then right behind it. -/
theorem token_of_lexeme {dialect : Dialect} (usable : dialect.Usable) {s : Source}
    {blanks lexeme rest : List Char} {result : Except Fault Token} (whole : s.Whole)
    (normal : s.failure = none) (blank : ∀ c ∈ blanks, isWhitespace c)
    (here : Lexeme dialect lexeme rest result) (hu : s.unread = blanks ++ (lexeme ++ rest)) :
    ∃ t, token dialect s = reading result t ∧ t.unread = rest := by
  obtain ⟨c, more, rfl, dark⟩ := here.head usable
  rw [List.cons_append] at hu
  obtain ⟨t, run, left, leads, behind, value⟩ := token_of_blanks dialect blank dark hu
  rw [run]
  exact tokenFrom_of_lexeme usable (whole.of_leads leads) (normal_of_leads normal leads) behind
    value left here

end Source

end Calculator
