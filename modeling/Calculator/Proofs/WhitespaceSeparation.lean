import Calculator.Proofs.JoinedTexts
import Calculator.Proofs.TextTokens

namespace Calculator

section Halts

variable {text after : List Char}

theorem takeWhile_append_of_stop {test : Char → Bool}
    (stop : ∀ c rest, after = c :: rest → test c = false) (text : List Char) :
    (text ++ after).takeWhile test = text.takeWhile test ∧
      (text ++ after).dropWhile test = text.dropWhile test ++ after := by
  induction text with
  | nil =>
    cases after with
    | nil => exact ⟨rfl, rfl⟩
    | cons c rest => simp [stop c rest rfl]
  | cons c text ih =>
    by_cases pass : test c
    · simp [pass, ih]
    · simp [pass]

theorem fractionOf_append (halts : Halts after) (text : List Char) :
    fractionOf (text ++ after) = fractionOf text := by
  cases text with
  | nil =>
    cases after with
    | nil => rfl
    | cons c rest =>
      exact fractionOf_of_ne rest fun same => halts.noPoint rest (same ▸ rfl)
  | cons c text =>
    by_cases point : c = '.'
    · subst point
      exact congrArg ('.' :: ·) (takeWhile_append_of_stop halts.noDigit text).1
    · rw [List.cons_append, fractionOf_of_ne _ point, fractionOf_of_ne _ point]

theorem mantissaOf_append (halts : Halts after) (text : List Char) :
    mantissaOf (text ++ after) = mantissaOf text := by
  obtain ⟨digits, rest⟩ := takeWhile_append_of_stop halts.noDigit text
  rw [mantissaOf, digits, rest, fractionOf_append halts, mantissaOf]

theorem numeralOf_append (halts : Halts after) (digit : (mantissaOf text).any Char.isDigit) :
    numeralOf (text ++ after) = numeralOf text :=
  ((longestFront_numeralOf digit).append halts).numeralOf_eq

theorem numeralAt_append (halts : Halts after) (text : List Char) :
    numeralAt (text ++ after) = ((numeralAt text).1, (numeralAt text).2 ++ after) := by
  unfold numeralAt
  rw [mantissaOf_append halts]
  by_cases digit : (mantissaOf text).any Char.isDigit
  · rw [if_pos digit, if_pos digit, numeralOf_append halts digit,
      List.drop_append_of_le_length (numeralOf_front text).length_le]
  · rw [if_neg digit, if_neg digit, List.drop_append_of_le_length (mantissaOf_front text).length_le]

/-- A text that halts words and numbers does not change what is read before it. -/
theorem tokenAt_append (dialect : Dialect) (c : Char) (halts : Halts after) (text : List Char) :
    tokenAt dialect c (text ++ after) =
      ((tokenAt dialect c text).1, (tokenAt dialect c text).2 ++ after) := by
  obtain ⟨word, rest⟩ := takeWhile_append_of_stop (fun d more same => (halts d more same).1) text
  unfold tokenAt
  rw [← List.cons_append, numeralAt_append halts, word, rest]
  split
  next => rfl
  next =>
    split
    next => rfl
    next => split <;> rfl

/-- The tokens of texts next to each other are the tokens of both, if the second one halts words
and numbers. -/
theorem tokensOf_append (dialect : Dialect) (halts : Halts after) (text : List Char) :
    tokensOf dialect (text ++ after) = tokensOf dialect text ++ tokensOf dialect after := by
  fun_induction tokensOf dialect text with
  | case1 text dark =>
    refine tokensOf_congr ?_
    rw [List.dropWhile_append_of_pos (blank_of_dropWhile dark)]
  | case2 text c rest dark ih =>
    have front : (text ++ after).dropWhile isWhitespace = c :: (rest ++ after) := by
      rw [List.dropWhile_append, dark]
      rfl
    rw [tokensOf_of_cons front, tokenAt_append dialect c halts, ih, List.cons_append]

theorem tokensOf_blanks (dialect : Dialect) {blanks : List Char}
    (blank : ∀ c ∈ blanks, isWhitespace c) (text : List Char) :
    tokensOf dialect (blanks ++ text) = tokensOf dialect text :=
  tokensOf_congr (List.dropWhile_append_of_pos blank)

end Halts

theorem decodeLossy_encodeUtf8_append (w : String) (rest : List UInt8) :
    decodeLossy (encodeUtf8 w ++ rest) = w.toList ++ decodeLossy rest := by
  unfold encodeUtf8
  induction w.toList with
  | nil => rfl
  | cons c chars ih => rw [List.flatMap_cons, List.append_assoc, decodeLossy_encodeChar, ih]; rfl

/-- A text that is not empty is read apart from any bytes that it stands between. -/
theorem decodeLossy_between (a b : List UInt8) {w : String} (nonempty : w ≠ "") :
    decodeLossy (a ++ (encodeUtf8 w ++ b)) = decodeLossy a ++ (w.toList ++ decodeLossy b) := by
  have behind := decodeLossy_encodeUtf8_append w b
  unfold encodeUtf8 at behind ⊢
  cases chars : w.toList with
  | nil => exact absurd (String.toList_eq_nil_iff.mp chars) nonempty
  | cons c more =>
    rw [chars] at behind
    rw [← behind, List.flatMap_cons, List.append_assoc, decodeLossy_append_encodeChar,
      decodeLossy_encodeChar]

/-- Blanks separate tokens and do nothing else, in any dialect. -/
theorem whitespace_separates_tokens (dialect : Dialect) (a b : List UInt8) (w : String)
    (blank : ∀ c ∈ w.toList, isWhitespace c) (nonempty : w ≠ "") :
    scriptOf dialect (a ++ (encodeUtf8 w ++ b)) = scriptOf dialect a ++ scriptOf dialect b := by
  simp only [scriptOf_eq_tokensOf]
  rw [decodeLossy_between a b nonempty]
  cases chars : w.toList with
  | nil => exact absurd (String.toList_eq_nil_iff.mp chars) nonempty
  | cons c more =>
    rw [chars] at blank
    have halts : Halts (c :: more ++ decodeLossy b) :=
      halts_blank (blank c List.mem_cons_self) (more ++ decodeLossy b)
    rw [tokensOf_append dialect halts, tokensOf_blanks dialect blank]

/-- The separator is a digit here, and the exponent before the blank is not finished. -/
theorem whitespace_separates_tokens_digit :
    (∀ c ∈ "\n".toList, isWhitespace c) ∧ "\n" ≠ "" ∧
      scriptOf { separator := '1' } (encodeUtf8 "12e+" ++ (encodeUtf8 "\n" ++ encodeUtf8 "31;")) =
        scriptOf { separator := '1' } (encodeUtf8 "12e+") ++
          scriptOf { separator := '1' } (encodeUtf8 "31;") :=
  have blank : ∀ c ∈ "\n".toList, isWhitespace c := List.forall_mem_singleton.mpr (by decide)
  have nonempty : "\n" ≠ "" := by decide
  ⟨blank, nonempty, whitespace_separates_tokens _ _ _ _ blank nonempty⟩

end Calculator
