import Calculator.Settings
import Calculator.Symbol

namespace Calculator

theorem inRanges_cons (n low high : Nat) (rest : List (Nat × Nat)) :
    inRanges n ((low, high) :: rest) = if n < low then false else n ≤ high || inRanges n rest := rfl

theorem inRanges_of_lt {n low high : Nat} {rest : List (Nat × Nat)} (h : n < low) :
    inRanges n ((low, high) :: rest) = false := by
  rw [inRanges_cons, if_pos h]

theorem isAlphabetic_of_lt {c : Char} (h : c.toNat < 0x41) : isAlphabetic c = false :=
  inRanges_of_lt h

theorem toNat_of_isDigit {c : Char} (h : c.isDigit) : 0x30 ≤ c.toNat ∧ c.toNat ≤ 0x39 := by
  simpa [Char.isDigit, UInt32.le_iff_toNat_le] using h

theorem isAlphabetic_of_isDigit {c : Char} (h : c.isDigit) : isAlphabetic c = false := by
  have bounds := toNat_of_isDigit h
  exact isAlphabetic_of_lt (by omega)

theorem isAlphanumeric_of_isDigit {c : Char} (h : c.isDigit) : isAlphanumeric c := by
  obtain ⟨low, high⟩ := toNat_of_isDigit h
  have numeric : inRanges c.toNat numericRanges := by
    rw [numericRanges, inRanges_cons, if_neg (by omega)]
    simp [high]
  simp [isAlphanumeric, isNumeric, numeric]

theorem exists_range_of_inRanges {n : Nat} {ranges : List (Nat × Nat)} (h : inRanges n ranges) :
    ∃ range ∈ ranges, range.1 ≤ n ∧ n ≤ range.2 := by
  induction ranges with
  | nil => cases h
  | cons range rest ih =>
    obtain ⟨low, high⟩ := range
    rw [inRanges_cons] at h
    split at h
    next => cases h
    next above =>
      rcases Bool.or_eq_true_iff.mp h with inside | later
      · exact ⟨(low, high), List.mem_cons_self, by omega, by simpa using inside⟩
      · obtain ⟨range, hm, bounds⟩ := ih later
        exact ⟨range, List.mem_cons_of_mem _ hm, bounds⟩

/-- The code points of closed ranges, one by one. -/
def codePoints (ranges : List (Nat × Nat)) : List Nat :=
  ranges.flatMap fun range => List.range' range.1 (range.2 + 1 - range.1)

theorem mem_codePoints_of_inRanges {n : Nat} {ranges : List (Nat × Nat)} (h : inRanges n ranges) :
    n ∈ codePoints ranges := by
  obtain ⟨range, hm, low, high⟩ := exists_range_of_inRanges h
  exact List.mem_flatMap.mpr ⟨range, hm, List.mem_range'_1.mpr (by omega)⟩

theorem codePoints_whitespace : ∀ n ∈ codePoints whitespaceRanges,
    inRanges n alphabeticRanges = false ∧ inRanges n numericRanges = false := by
  decide +kernel

theorem isAlphanumeric_of_isWhitespace {c : Char} (h : isWhitespace c) :
    isAlphanumeric c = false := by
  obtain ⟨letter, number⟩ := codePoints_whitespace c.toNat (mem_codePoints_of_inRanges h)
  simp [isAlphanumeric, isAlphabetic, isNumeric, letter, number]

theorem isAlphanumeric_of_isAlphabetic {c : Char} (h : isAlphabetic c) : isAlphanumeric c := by
  simp [isAlphanumeric, h]

theorem isWhitespace_of_isAlphanumeric {c : Char} (h : isAlphanumeric c) :
    isWhitespace c = false := by
  cases hb : isWhitespace c with
  | false => rfl
  | true =>
    rw [isAlphanumeric_of_isWhitespace hb] at h
    cases h

theorem classes_of_isReserved {c : Char} (h : isReserved c) :
    isAlphanumeric c = false ∧ isWhitespace c = false := by
  have listed := List.contains_iff_mem.mp h
  simp only [List.mem_cons, List.not_mem_nil, or_false] at listed
  rcases listed with rfl | rfl | rfl | rfl | rfl | rfl | rfl | rfl | rfl <;> exact ⟨rfl, rfl⟩

theorem Symbol.isReserved_toChar (separator : Char) {symbol : Symbol}
    (h : symbol ≠ .separator) : isReserved (symbol.toChar separator) := by
  cases symbol with
  | separator => exact absurd rfl h
  | _ => rfl

theorem Symbol.ofChar?_eq_none {separator c : Char}
    (h : ∀ symbol : Symbol, symbol.toChar separator ≠ c) : Symbol.ofChar? separator c = none := by
  cases hs : Symbol.ofChar? separator c with
  | none => rfl
  | some symbol => exact absurd (toChar_of_ofChar? hs) (h symbol)

/-- Each reserved character but the point writes a symbol of its own, whatever the separator is. -/
theorem exists_symbol_of_isReserved {c : Char} (h : isReserved c) (noPoint : c ≠ '.') :
    ∃ symbol : Symbol, symbol ≠ .separator ∧
      ∀ separator, Symbol.ofChar? separator c = some symbol := by
  have listed := List.contains_iff_mem.mp h
  simp only [List.mem_cons, List.not_mem_nil, or_false] at listed
  rcases listed with rfl | rfl | rfl | rfl | rfl | rfl | rfl | rfl | rfl
  · exact ⟨.leftParen, by simp, fun _ => rfl⟩
  · exact ⟨.rightParen, by simp, fun _ => rfl⟩
  · exact ⟨.plus, by simp, fun _ => rfl⟩
  · exact ⟨.minus, by simp, fun _ => rfl⟩
  · exact ⟨.star, by simp, fun _ => rfl⟩
  · exact ⟨.slash, by simp, fun _ => rfl⟩
  · exact ⟨.percent, by simp, fun _ => rfl⟩
  · exact ⟨.equal, by simp, fun _ => rfl⟩
  · exact absurd rfl noPoint

/-- What a usable dialect is. -/
structure Dialect.Usable (dialect : Dialect) : Prop where
  noWord : isAlphanumeric dialect.separator = false
  noBlank : isWhitespace dialect.separator = false
  noReserved : isReserved dialect.separator = false
  declareWord : isWord dialect.declareWord.toList
  quitWord : isWord dialect.quitWord.toList
  apart : dialect.declareWord ≠ dialect.quitWord

theorem Dialect.check_eq_ok {dialect : Dialect} : dialect.check = .ok () ↔ dialect.Usable := by
  unfold Dialect.check
  constructor
  · intro h
    split at h
    next => cases h
    next separator =>
      split at h
      next => cases h
      next declares =>
        split at h
        next => cases h
        next quits =>
          split at h
          next => cases h
          next apart =>
            simp only [Bool.or_eq_true, not_or, Bool.not_eq_true] at separator
            exact ⟨separator.1.1, separator.1.2, separator.2, by simpa using declares,
              by simpa using quits, apart⟩
  · rintro ⟨word, blank, reserved, declares, quits, apart⟩
    simp [word, blank, reserved, declares, quits, apart]

namespace Dialect.Usable

variable {dialect : Dialect} (usable : dialect.Usable)
include usable

theorem separator_ne {c : Char} (reserved : isReserved c) : dialect.separator ≠ c := by
  rintro rfl
  rw [usable.noReserved] at reserved
  cases reserved

theorem ofChar?_toChar (symbol : Symbol) :
    Symbol.ofChar? dialect.separator (symbol.toChar dialect.separator) = some symbol := by
  cases symbol with
  | separator =>
    cases h : Symbol.ofChar? dialect.separator dialect.separator with
    | none =>
      unfold Symbol.ofChar? at h
      split at h
      case h_9 => simp at h
      all_goals cases h
    | some other =>
      by_cases same : other = .separator
      · subst same
        exact h
      · have reserved := Symbol.isReserved_toChar dialect.separator same
        rw [Symbol.toChar_of_ofChar? h] at reserved
        exact absurd rfl (usable.separator_ne reserved)
  | _ => rfl

theorem classes_toChar (symbol : Symbol) :
    isAlphanumeric (symbol.toChar dialect.separator) = false ∧
      isWhitespace (symbol.toChar dialect.separator) = false := by
  by_cases h : symbol = .separator
  · rw [h]
    exact ⟨usable.noWord, usable.noBlank⟩
  · exact classes_of_isReserved (Symbol.isReserved_toChar dialect.separator h)

theorem toChar_ne_point (symbol : Symbol) : symbol.toChar dialect.separator ≠ '.' := by
  cases symbol with
  | separator => exact usable.separator_ne rfl
  | _ => simp [Symbol.toChar]

/-- A letter, a digit of any script or a point writes no symbol. -/
theorem ofChar?_eq_none {c : Char} (h : isAlphanumeric c ∨ c = '.') :
    Symbol.ofChar? dialect.separator c = none := by
  apply Symbol.ofChar?_eq_none
  rintro symbol rfl
  rcases h with word | point
  · rw [(usable.classes_toChar symbol).1] at word
    cases word
  · exact usable.toChar_ne_point symbol point

end Dialect.Usable

end Calculator
