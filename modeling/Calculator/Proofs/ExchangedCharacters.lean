import Calculator.Proofs.TextTokens
import Mathlib.Logic.Equiv.Basic

namespace Calculator

/-- The same dialect with another separator. -/
def Dialect.separatedBy (dialect : Dialect) (separator : Char) : Dialect :=
  { dialect with separator }

/-- An exchange of characters that takes the separator of a dialect to another one, and leaves
alone what words, numbers, blanks and the other symbols are made of. -/
structure Exchanges (dialect : Dialect) (separator : Char) (exchange : Char → Char) : Prop where
  usable : dialect.Usable
  usableToo : (dialect.separatedBy separator).Usable
  twice : Function.Involutive exchange
  fixed : ∀ c, isAlphanumeric c ∨ isWhitespace c ∨ isReserved c → exchange c = c
  separator : exchange dialect.separator = separator

/-- Exchanges two characters. -/
def exchanging (first second : Char) : Char → Char := Equiv.swap first second

/-- The fault of a text whose characters are exchanged. Only a bad token is shown as it stands in
the text. -/
def Fault.exchanged (exchange : Char → Char) : Fault → Fault
  | .lexical (.badToken c) => .lexical (.badToken (exchange c))
  | fault => fault

/-- The script of a text whose characters are exchanged. -/
def Script.exchanged (exchange : Char → Char) (script : Script) : Script :=
  script.map (Except.mapError (Fault.exchanged exchange))

/-- A numeral that stands for no number is shown, but it is no bad token. -/
theorem mapError_literalValue (exchange : Char → Char) (literal : List Char) :
    (((Source.literalValue literal).map Token.number).mapError Fault.lexical).mapError
        (Fault.exchanged exchange) =
      ((Source.literalValue literal).map Token.number).mapError Fault.lexical := by
  unfold Source.literalValue
  split
  next => rfl
  next => split <;> rfl

/-- Exchanging two separators exchanges nothing else that has a meaning. -/
theorem exchanges_exchanging {dialect : Dialect} {separator : Char} (usable : dialect.Usable)
    (usableToo : (dialect.separatedBy separator).Usable) :
    Exchanges dialect separator (exchanging dialect.separator separator) := by
  refine ⟨usable, usableToo, Equiv.swap_apply_self _ _, fun c meaning => ?_,
    Equiv.swap_apply_left _ _⟩
  have apart : ∀ {dialect : Dialect}, dialect.Usable → c ≠ dialect.separator := by
    rintro dialect ⟨noWord, noBlank, noReserved, _⟩ rfl
    simp [noWord, noBlank, noReserved] at meaning
  exact Equiv.swap_apply_of_ne_of_ne (apart usable) (apart usableToo)

namespace Exchanges

variable {dialect : Dialect} {separator : Char} {exchange : Char → Char}
  (exchanges : Exchanges dialect separator exchange)
include exchanges

/-- A test that only fixed characters pass is passed before the exchange as after it. -/
theorem keeps {test : Char → Bool} (fixed : ∀ c, test c → exchange c = c) (c : Char) :
    test (exchange c) = test c := by
  cases here : test c with
  | true => rw [fixed c here, here]
  | false =>
    cases there : test (exchange c) with
    | false => rfl
    | true =>
      have same : exchange c = c := by rw [← fixed (exchange c) there, exchanges.twice]
      rw [same, here] at there
      cases there

omit exchanges in
theorem map_of_fixed {text : List Char} (fixed : ∀ c ∈ text, exchange c = c) :
    text.map exchange = text :=
  (List.map_congr_left fixed).trans (List.map_id' text)

theorem takeWhile_map {test : Char → Bool} (fixed : ∀ c, test c → exchange c = c)
    (text : List Char) : (text.map exchange).takeWhile test = text.takeWhile test ∧
      (text.map exchange).dropWhile test = (text.dropWhile test).map exchange := by
  have kept : test ∘ exchange = test := funext (exchanges.keeps fixed)
  rw [List.takeWhile_map, List.dropWhile_map, kept]
  refine ⟨map_of_fixed fun c hc => fixed c ?_, rfl⟩
  exact List.all_eq_true.mp List.all_takeWhile c hc

theorem fixed_blank (c : Char) (blank : isWhitespace c) : exchange c = c :=
  exchanges.fixed c (Or.inr (Or.inl blank))

theorem fixed_reserved (c : Char) (reserved : isReserved c) : exchange c = c :=
  exchanges.fixed c (Or.inr (Or.inr reserved))

theorem fixed_alphanumeric (c : Char) (word : isAlphanumeric c) : exchange c = c :=
  exchanges.fixed c (Or.inl word)

theorem fixed_alphabetic (c : Char) (letter : isAlphabetic c) : exchange c = c :=
  exchanges.fixed_alphanumeric c (isAlphanumeric_of_isAlphabetic letter)

theorem fixed_digit (c : Char) (digit : c.isDigit) : exchange c = c :=
  exchanges.fixed_alphanumeric c (isAlphanumeric_of_isDigit digit)

theorem eq_point_iff (c : Char) : exchange c = '.' ↔ c = '.' := by
  have point : exchange '.' = '.' := exchanges.fixed_reserved '.' rfl
  exact ⟨fun same => exchanges.twice.injective (same.trans point.symm), fun same => same ▸ point⟩

theorem toChar_separatedBy (symbol : Symbol) :
    symbol.toChar separator = exchange (symbol.toChar dialect.separator) := by
  by_cases same : symbol = .separator
  · subst same
    exact exchanges.separator.symm
  · rw [exchanges.fixed_reserved _ (Symbol.isReserved_toChar dialect.separator same)]
    cases symbol <;> first | rfl | exact absurd rfl same

/-- A symbol stays the symbol that it is, and the separator goes with its character. -/
theorem ofChar?_exchange (c : Char) :
    Symbol.ofChar? separator (exchange c) = Symbol.ofChar? dialect.separator c := by
  have written {dialect : Dialect} (usable : dialect.Usable) (symbol : Symbol) (c : Char) :
      Symbol.ofChar? dialect.separator c = some symbol ↔ symbol.toChar dialect.separator = c :=
    ⟨Symbol.toChar_of_ofChar?, fun same => same ▸ usable.ofChar?_toChar symbol⟩
  -- A symbol is read where the character stands that writes it, before and after the exchange.
  refine Option.ext fun symbol => ?_
  rw [written exchanges.usable, ← exchanges.twice.injective.eq_iff,
    ← exchanges.toChar_separatedBy]
  exact written exchanges.usableToo symbol (exchange c)

theorem fractionOf_map (text : List Char) : fractionOf (text.map exchange) = fractionOf text := by
  cases text with
  | nil => rfl
  | cons c text =>
    by_cases point : c = '.'
    · subst point
      rw [List.map_cons, exchanges.fixed_reserved '.' rfl]
      exact congrArg ('.' :: ·) (exchanges.takeWhile_map exchanges.fixed_digit text).1
    · have elsewhere : exchange c ≠ '.' := fun same => point ((exchanges.eq_point_iff c).mp same)
      rw [List.map_cons, fractionOf_of_ne _ elsewhere, fractionOf_of_ne _ point]

theorem mantissaOf_map (text : List Char) : mantissaOf (text.map exchange) = mantissaOf text := by
  obtain ⟨digits, rest⟩ := exchanges.takeWhile_map exchanges.fixed_digit text
  rw [mantissaOf, digits, rest, exchanges.fractionOf_map, mantissaOf]

theorem map_numeral {text : List Char} (numeral : Numeral text) : text.map exchange = text := by
  refine map_of_fixed fun c hc => ?_
  rcases numeral.mem hc with word | reserved
  · exact exchanges.fixed_alphanumeric c word
  · exact exchanges.fixed_reserved c reserved

/-- An exchange makes no numeral, and breaks none. -/
theorem longestFront_map {text front : List Char} (longest : LongestFront Numeral text front) :
    LongestFront Numeral (text.map exchange) front := by
  obtain ⟨here, numeral, longest⟩ := longest
  have moved := here.map exchange
  rw [exchanges.map_numeral numeral] at moved
  refine ⟨moved, numeral, fun other there numeral => longest other ?_ numeral⟩
  have back := there.map exchange
  rwa [exchanges.map_numeral numeral, List.map_map, exchanges.twice.comp_self, List.map_id] at back

theorem numeralOf_map {text : List Char} (digit : (mantissaOf text).any Char.isDigit) :
    numeralOf (text.map exchange) = numeralOf text :=
  (exchanges.longestFront_map (longestFront_numeralOf digit)).numeralOf_eq

theorem numeralAt_map (text : List Char) : numeralAt (text.map exchange) =
    ((numeralAt text).1.mapError (Fault.exchanged exchange), (numeralAt text).2.map exchange) := by
  unfold numeralAt
  rw [exchanges.mantissaOf_map]
  by_cases digit : (mantissaOf text).any Char.isDigit
  · rw [if_pos digit, if_pos digit, exchanges.numeralOf_map digit, mapError_literalValue,
      List.map_drop]
  · rw [if_neg digit, if_neg digit, List.map_drop]
    rfl

/-- What is read of a text is exchanged with it. -/
theorem tokenAt_map (c : Char) (text : List Char) :
    tokenAt (dialect.separatedBy separator) (exchange c) (text.map exchange) =
      ((tokenAt dialect c text).1.mapError (Fault.exchanged exchange),
        (tokenAt dialect c text).2.map exchange) := by
  have written : Symbol.ofChar? (dialect.separatedBy separator).separator (exchange c) =
    Symbol.ofChar? dialect.separator c := exchanges.ofChar?_exchange c
  have starts : (exchange c).isDigit ∨ exchange c = '.' ↔ c.isDigit ∨ c = '.' := by
    rw [exchanges.keeps exchanges.fixed_digit, exchanges.eq_point_iff]
  have letters := exchanges.keeps exchanges.fixed_alphabetic c
  cases found : Symbol.ofChar? dialect.separator c with
  | some symbol =>
    simp only [tokenAt, written, found]
    rfl
  | none =>
    by_cases start : c.isDigit ∨ c = '.'
    · simp only [tokenAt, written, found, if_pos start, if_pos (starts.mpr start)]
      rw [← List.map_cons, exchanges.numeralAt_map]
    have noStart : ¬((exchange c).isDigit ∨ exchange c = '.') := fun there =>
      start (starts.mp there)
    by_cases letter : isAlphabetic c
    · obtain ⟨word, rest⟩ := exchanges.takeWhile_map exchanges.fixed_alphanumeric text
      simp only [tokenAt, written, found, if_neg start, if_neg noStart, letters, if_pos letter,
        word, rest]
      rw [exchanges.fixed_alphabetic c letter]
      rfl
    · simp only [tokenAt, written, found, if_neg start, if_neg noStart, letters, if_neg letter]
      rfl

theorem tokensOf_map (text : List Char) :
    tokensOf (dialect.separatedBy separator) (text.map exchange) =
      Script.exchanged exchange (tokensOf dialect text) := by
  fun_induction tokensOf dialect text with
  | case1 text dark =>
    refine tokensOf_of_nil ?_
    rw [(exchanges.takeWhile_map exchanges.fixed_blank text).2, dark, List.map_nil]
  | case2 text c rest dark ih =>
    have front : (text.map exchange).dropWhile isWhitespace = exchange c :: rest.map exchange := by
      rw [(exchanges.takeWhile_map exchanges.fixed_blank text).2, dark, List.map_cons]
    rw [tokensOf_of_cons front, exchanges.tokenAt_map, ih]
    rfl

theorem scriptOf_map (text : String) :
    scriptOf (dialect.separatedBy separator) (encodeUtf8 (text.map exchange)) =
      Script.exchanged exchange (scriptOf dialect (encodeUtf8 text)) := by
  rw [scriptOf_eq_tokensOf, scriptOf_eq_tokensOf, decodeLossy_encodeUtf8, decodeLossy_encodeUtf8,
    String.toList_map, exchanges.tokensOf_map]

end Exchanges

end Calculator
