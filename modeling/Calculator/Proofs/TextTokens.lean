import Calculator.Proofs.CleanScripts
import Calculator.Proofs.SessionOfTokens

namespace Calculator

/-- What is read of a text that starts with a digit or a point, and what is left of it. -/
def numeralAt (text : List Char) : Except Fault Token × List Char :=
  if (mantissaOf text).any Char.isDigit then
    (((Source.literalValue (numeralOf text)).map Token.number).mapError Fault.lexical,
      text.drop (numeralOf text).length)
  else
    (.error (.lexical (.noDigits (.ofList (mantissaOf text)))), text.drop (mantissaOf text).length)

/-- What is read of a text from a first character on that is not blank, and what is left of it. -/
def tokenAt (dialect : Dialect) (c : Char) (text : List Char) : Except Fault Token × List Char :=
  match Symbol.ofChar? dialect.separator c with
  | some symbol => (.ok (.punct symbol), text)
  | none =>
    if c.isDigit ∨ c = '.' then numeralAt (c :: text)
    else if isAlphabetic c then
      (.ok (dialect.word (.ofList (c :: text.takeWhile isAlphanumeric))),
        text.dropWhile isAlphanumeric)
    else (.error (.lexical (.badToken c)), text)

theorem mantissaOf_ne_nil {c : Char} {text : List Char} (start : c.isDigit ∨ c = '.') :
    mantissaOf (c :: text) ≠ [] := by
  rcases start with digit | rfl
  · simp [mantissaOf, digit]
  · exact List.cons_ne_nil _ _

/-- What is read has at least the first character. -/
theorem length_tokenAt (dialect : Dialect) (c : Char) (text : List Char) :
    (tokenAt dialect c text).2.length ≤ text.length := by
  unfold tokenAt
  split
  next => exact Nat.le_refl _
  next =>
    split
    next start =>
      have present := List.length_pos_iff.mpr (@mantissaOf_ne_nil c text start)
      unfold numeralAt
      split
      next =>
        rw [List.length_drop, numeralOf, List.length_append, List.length_cons]
        omega
      next =>
        rw [List.length_drop, List.length_cons]
        omega
    next =>
      split
      next => exact List.length_dropWhile_le _ _
      next => exact Nat.le_refl _

theorem recoverable_tokenAt (dialect : Dialect) (c : Char) (text : List Char) :
    Recoverable (tokenAt dialect c text).1 := by
  unfold tokenAt
  split
  next => exact recoverable_ok _
  next =>
    split
    next =>
      unfold numeralAt
      split
      next =>
        cases Source.literalValue (numeralOf (c :: text)) with
        | ok value => exact recoverable_ok _
        | error cause => exact recoverable_error rfl
      next => exact recoverable_error rfl
    next =>
      split
      next => exact recoverable_ok _
      next => exact recoverable_error rfl

/-- The tokens and faults of a text. -/
def tokensOf (dialect : Dialect) (text : List Char) : Script :=
  match _dark : text.dropWhile isWhitespace with
  | [] => []
  | c :: rest => (tokenAt dialect c rest).1 :: tokensOf dialect (tokenAt dialect c rest).2
termination_by text.length
decreasing_by
  have short := List.length_dropWhile_le isWhitespace text
  have less := length_tokenAt dialect c rest
  rw [_dark, List.length_cons] at short
  omega

section TokensOf

variable {dialect : Dialect} {text after : List Char} {c : Char}

theorem tokensOf_of_nil (dark : text.dropWhile isWhitespace = []) : tokensOf dialect text = [] := by
  rw [tokensOf]
  split
  next => rfl
  next found => cases dark.symm.trans found

theorem tokensOf_of_cons {rest : List Char} (dark : text.dropWhile isWhitespace = c :: rest) :
    tokensOf dialect text =
      (tokenAt dialect c rest).1 :: tokensOf dialect (tokenAt dialect c rest).2 := by
  rw [tokensOf]
  split
  next spent => cases dark.symm.trans spent
  next d more found =>
    cases dark.symm.trans found
    rfl

/-- Blanks in front of a text hold no tokens. -/
theorem tokensOf_congr {other : List Char}
    (same : text.dropWhile isWhitespace = other.dropWhile isWhitespace) :
    tokensOf dialect text = tokensOf dialect other := by
  cases dark : other.dropWhile isWhitespace with
  | nil => rw [tokensOf_of_nil dark, tokensOf_of_nil (same.trans dark)]
  | cons c rest => rw [tokensOf_of_cons dark, tokensOf_of_cons (same.trans dark)]

end TokensOf

namespace Source

/-- A reader of a number, as one of a token. -/
def numberToken : Scan Token := number >>= fun value => pure (.number value)

theorem numberToken_of_literal {s t : Source} {taken : List Char} (h : literal s = .ok taken t) :
    numberToken s =
      reading (((literalValue taken).map Token.number).mapError Fault.lexical) t := by
  cases stands : literalValue taken with
  | ok value =>
    have read : number s = .ok value t := Scan.bind_eq_ok.mpr ⟨taken, t, h, by rw [stands]; rfl⟩
    exact Scan.bind_eq_ok.mpr ⟨value, t, read, rfl⟩
  | error cause =>
    refine Scan.bind_eq_error.mpr (Or.inl ?_)
    exact Scan.bind_eq_error.mpr (Or.inr ⟨taken, t, h, by rw [stands]; rfl⟩)

theorem numberToken_normal {s : Source} (whole : s.Whole) (normal : s.failure = none) :
    ∃ u, numberToken s = reading (numeralAt s.unread).1 u ∧
      u.unread = (numeralAt s.unread).2 := by
  have taken := literal_normal whole normal
  unfold numeralAt
  split at taken
  next digit =>
    obtain ⟨u, taken⟩ := taken
    rw [if_pos digit]
    exact ⟨u, numberToken_of_literal taken, (drop_of_append (literal_ok taken).1).symm⟩
  next noDigit =>
    obtain ⟨u, taken, rest⟩ := taken
    rw [if_neg noDigit]
    refine ⟨u, ?_, (drop_of_append rest).symm⟩
    exact Scan.bind_eq_error.mpr (Or.inl (Scan.bind_eq_error.mpr (Or.inl taken)))

/-- From its first character on, which has just been taken, a token is read as the text alone
says. -/
theorem tokenFrom_normal (dialect : Dialect) {s : Source} {c : Char} (whole : s.Whole)
    (normal : s.failure = none) (behind : 0 < s.pos) (value : s.line[s.pos - 1]? = some c) :
    ∃ u, tokenFrom dialect c s = reading (tokenAt dialect c s.unread).1 u ∧
      u.unread = (tokenAt dialect c s.unread).2 := by
  cases written : Symbol.ofChar? dialect.separator c with
  | some symbol =>
    simp only [tokenFrom, tokenAt, written]
    exact ⟨s, rfl, rfl⟩
  | none =>
    by_cases start : c.isDigit ∨ c = '.'
    · have leads := leads_putBack behind value
      obtain ⟨u, read, left⟩ :=
        numberToken_normal (whole.of_leads leads) (normal_of_leads normal leads)
      rw [unread_putBack_of_getElem? behind value] at read left
      rw [tokenFrom_numeral written start]
      simp only [tokenAt, written, if_pos start]
      exact ⟨u, read, left⟩
    · by_cases letter : isAlphabetic c
      · obtain ⟨u, taken, left⟩ := takeWhile_normal isAlphanumeric normal
        simp only [tokenFrom, tokenAt, written, if_neg start, if_pos letter]
        exact ⟨u, Scan.bind_eq_ok.mpr ⟨_, _, taken, rfl⟩, left⟩
      · simp only [tokenFrom, tokenAt, written, if_neg start, if_neg letter]
        exact ⟨s, rfl, rfl⟩

end Source

/-- A tokenizer lists the tokens and faults of the text that its source has still to give. -/
theorem Tokenizer.stream_eq_tokensOf {t : Tokenizer} (free : t.held = none)
    (whole : t.source.Whole) (normal : t.source.failure = none) :
    t.stream = tokensOf t.dialect t.source.unread := by
  generalize hu : t.source.unread = text
  generalize hd : t.dialect = dialect
  fun_induction tokensOf dialect text generalizing t with
  | case1 text dark =>
    have blank := blank_of_dropWhile dark
    rw [stream_of_blank free (by rwa [hu]), Source.ending_of_normal normal]
  | case2 text c rest dark ih =>
    subst hd
    obtain ⟨parts, blank, noBlank⟩ := cut_of_dropWhile dark
    obtain ⟨s, run, front, leads, behind, value⟩ :=
      Source.token_of_blanks t.dialect blank noBlank (hu.trans parts.symm)
    obtain ⟨u, read, left⟩ := Source.tokenFrom_normal t.dialect (whole.of_leads leads)
      (Source.normal_of_leads normal leads) behind value
    rw [front] at read left
    obtain ⟨taken, source⟩ := next_of_token free (run.trans read)
    -- The source goes on over the same lines, so what is left is listed in the same way.
    have onward := leads_next t
    have further : t.next.tokens.stream = tokensOf t.dialect (tokenAt t.dialect c rest).2 :=
      ih (held_next t) (whole.of_leads onward) (Source.normal_of_leads normal onward)
        (by rw [source, left]) (dialect_next t)
    cases result : (tokenAt t.dialect c rest).1 with
    | ok token => rw [stream_of_ok (taken.trans result), further]
    | error fault =>
      have recoverable := recoverable_tokenAt t.dialect c rest fault result
      rw [stream_of_recoverable (taken.trans result) recoverable, further]

theorem scriptOf_eq_tokensOf (dialect : Dialect) (bytes : List UInt8) :
    scriptOf dialect bytes = tokensOf dialect (decodeLossy bytes) := by
  rw [scriptOf, Tokenizer.stream_eq_tokensOf rfl (Source.whole_ofBytes bytes) rfl]
  exact congrArg (tokensOf dialect) (Source.unread_ofBytes bytes)

end Calculator
