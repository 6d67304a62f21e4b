import Calculator.Proofs.SourceLines

namespace Calculator

/-- What may stand behind the whole digits of a numeral: a point and digits. -/
inductive Fraction : List Char → Prop where
  | absent : Fraction []
  | point {digits : List Char} (all : ∀ c ∈ digits, c.isDigit) : Fraction ('.' :: digits)

/-- What may end a numeral: a marker, a sign or none, and at least one digit. -/
inductive Exponent : List Char → Prop where
  | absent : Exponent []
  | marked {marker : Char} {sign digits : List Char} (letter : marker = 'e' ∨ marker = 'E')
      (signed : sign = [] ∨ sign = ['+'] ∨ sign = ['-']) (present : digits ≠ [])
      (all : ∀ c ∈ digits, c.isDigit) : Exponent (marker :: (sign ++ digits))

/-- The form `digits [. digits] [(e|E) [+|-] digits]` with at least one digit before the
exponent. -/
def Numeral (text : List Char) : Prop :=
  ∃ whole fraction exponent, text = whole ++ (fraction ++ exponent) ∧
    (∀ c ∈ whole, c.isDigit) ∧ Fraction fraction ∧ Exponent exponent ∧
    ∃ c ∈ whole ++ fraction, c.isDigit

/-- A front of a text has some property, and no longer front has it. -/
def LongestFront (property : List Char → Prop) (text front : List Char) : Prop :=
  front <+: text ∧ property front ∧ ∀ other, other <+: text → property other →
    other.length ≤ front.length

theorem LongestFront.unique {property : List Char → Prop} {text front other : List Char}
    (h : LongestFront property text front) (g : LongestFront property text other) :
    front = other := by
  have le := g.2.2 front h.1 h.2.1
  have ge := h.2.2 other g.1 g.2.1
  exact List.IsPrefix.eq_of_length (List.prefix_of_prefix_length_le h.1 g.1 le) (by omega)

def fractionOf : List Char → List Char
  | '.' :: rest => '.' :: rest.takeWhile Char.isDigit
  | _ => []

def mantissaOf (text : List Char) : List Char :=
  text.takeWhile Char.isDigit ++ fractionOf (text.dropWhile Char.isDigit)

def signOf (text : List Char) : List Char :=
  (text[1]?.filter fun c => c = '+' ∨ c = '-').toList

def exponentOf : List Char → List Char
  | [] => []
  | marker :: rest =>
    let lead := marker :: signOf (marker :: rest)
    if (marker = 'e' ∨ marker = 'E') ∧ (marker :: rest)[lead.length]?.any Char.isDigit then
      lead ++ ((marker :: rest).drop lead.length).takeWhile Char.isDigit
    else []

/-- The numeral that a text starts with. -/
def numeralOf (text : List Char) : List Char :=
  mantissaOf text ++ exponentOf (text.drop (mantissaOf text).length)

theorem digits_front {digits after text : List Char} (all : ∀ c ∈ digits, c.isDigit)
    (stop : ∀ c rest, after = c :: rest → c.isDigit = false) (h : digits ++ after <+: text) :
    (after = [] ∧ digits.length ≤ (text.takeWhile Char.isDigit).length) ∨
      (digits = text.takeWhile Char.isDigit ∧ after <+: text.dropWhile Char.isDigit) := by
  induction digits generalizing text with
  | nil =>
    rw [List.nil_append] at h
    cases after with
    | nil => exact Or.inl ⟨rfl, Nat.zero_le _⟩
    | cons c rest =>
      have other := stop c rest rfl
      obtain ⟨more, rfl⟩ := h
      exact Or.inr ⟨by simp [other], by simp [other]⟩
  | cons d digits ih =>
    obtain ⟨more, rfl⟩ := h
    have digit := all d List.mem_cons_self
    simp only [List.cons_append, List.takeWhile_cons, List.dropWhile_cons, digit, ↓reduceIte]
    rcases ih (fun c hc => all c (List.mem_cons_of_mem d hc)) (List.prefix_append _ _) with
      ⟨ended, le⟩ | ⟨same, front⟩
    · exact Or.inl ⟨ended, by simpa using le⟩
    · exact Or.inr ⟨by rw [← same], front⟩

theorem Exponent.head_not_digit {exponent : List Char} (h : Exponent exponent) :
    ∀ c rest, exponent = c :: rest → c.isDigit = false := by
  intro c rest he
  cases h with
  | absent => cases he
  | marked letter =>
    cases he
    rcases letter with rfl | rfl <;> rfl

theorem exponentOf_marked {marker : Char} {sign : List Char} {d : Char} (rest : List Char)
    (letter : marker = 'e' ∨ marker = 'E') (signed : sign = [] ∨ sign = ['+'] ∨ sign = ['-'])
    (digit : d.isDigit) : exponentOf (marker :: (sign ++ d :: rest)) =
      marker :: (sign ++ (d :: rest).takeWhile Char.isDigit) := by
  have sign_eq : signOf (marker :: (sign ++ d :: rest)) = sign := by
    rcases signed with rfl | rfl | rfl
    · have plus : d ≠ '+' := by rintro rfl; cases digit
      have minus : d ≠ '-' := by rintro rfl; cases digit
      simp [signOf, plus, minus]
    · rfl
    · rfl
  have found : (marker :: (sign ++ d :: rest))[(marker :: sign).length]? = some d := by simp
  have beyond : (marker :: (sign ++ d :: rest)).drop (marker :: sign).length = d :: rest := by simp
  simp only [exponentOf, sign_eq, found, beyond, letter, Option.any_some, digit, and_self,
    ↓reduceIte, List.cons_append]

theorem Exponent.le_exponentOf {exponent text : List Char} (h : Exponent exponent)
    (front : exponent <+: text) : exponent.length ≤ (exponentOf text).length := by
  cases h with
  | absent => exact Nat.zero_le _
  | @marked marker sign digits letter signed present all =>
    obtain ⟨more, rfl⟩ := front
    obtain ⟨d, digits, rfl⟩ := List.exists_cons_of_ne_nil present
    have taken : (d :: digits ++ more).takeWhile Char.isDigit =
        d :: digits ++ more.takeWhile Char.isDigit := List.takeWhile_append_of_pos all
    have whole := exponentOf_marked (digits ++ more) letter signed
      (all d List.mem_cons_self)
    rw [List.cons_append, List.append_assoc, List.cons_append, whole]
    rw [List.cons_append] at taken
    rw [taken]
    simp

theorem fractionOf_front (text : List Char) : fractionOf text <+: text := by
  unfold fractionOf
  split
  next rest => exact (List.cons_prefix_cons).mpr ⟨rfl, List.takeWhile_prefix _⟩
  next => exact List.nil_prefix

theorem mantissaOf_front (text : List Char) : mantissaOf text <+: text := by
  have parts := List.takeWhile_append_dropWhile (p := Char.isDigit) (l := text)
  have front := (List.prefix_append_right_inj (text.takeWhile Char.isDigit)).mpr
    (fractionOf_front (text.dropWhile Char.isDigit))
  rwa [parts] at front

theorem drop_of_append {front rest text : List Char} (h : text = front ++ rest) :
    text.drop front.length = rest := by rw [h, List.drop_left]

theorem drop_digits (text : List Char) :
    text.drop (text.takeWhile Char.isDigit).length = text.dropWhile Char.isDigit :=
  drop_of_append List.takeWhile_append_dropWhile.symm

theorem drop_mantissaOf (text : List Char) : text.drop (mantissaOf text).length =
    (text.dropWhile Char.isDigit).drop (fractionOf (text.dropWhile Char.isDigit)).length := by
  rw [mantissaOf, List.length_append, ← List.drop_drop, drop_digits]

theorem takeWhile_isDigit (text : List Char) : ∀ c ∈ text.takeWhile Char.isDigit, c.isDigit := by
  intro c hc
  exact List.all_eq_true.mp List.all_takeWhile c hc

theorem fraction_fractionOf (text : List Char) : Fraction (fractionOf text) := by
  unfold fractionOf
  split
  next rest => exact .point (takeWhile_isDigit rest)
  next => exact .absent

theorem exponentOf_cases (text : List Char) : exponentOf text = [] ∨
    ∃ marker sign d rest, text = marker :: (sign ++ d :: rest) ∧ (marker = 'e' ∨ marker = 'E') ∧
      (sign = [] ∨ sign = ['+'] ∨ sign = ['-']) ∧ d.isDigit := by
  cases text with
  | nil => exact Or.inl rfl
  | cons marker rest =>
    simp only [exponentOf]
    split
    next found =>
      obtain ⟨letter, digit⟩ := found
      refine Or.inr ?_
      cases rest with
      | nil => cases digit
      | cons c rest =>
        by_cases signed : c = '+' ∨ c = '-'
        · have sign_eq : signOf (marker :: c :: rest) = [c] := by simp [signOf, signed]
          rw [sign_eq] at digit
          cases rest with
          | nil => cases digit
          | cons d rest =>
            refine ⟨marker, [c], d, rest, rfl, letter, ?_, digit⟩
            rcases signed with rfl | rfl
            · exact Or.inr (Or.inl rfl)
            · exact Or.inr (Or.inr rfl)
        · have sign_eq : signOf (marker :: c :: rest) = [] := by simp [signOf, not_or.mp signed]
          rw [sign_eq] at digit
          exact ⟨marker, [], c, rest, rfl, letter, Or.inl rfl, digit⟩
    next => exact Or.inl rfl

theorem exponentOf_front (text : List Char) : exponentOf text <+: text := by
  rcases exponentOf_cases text with absent | ⟨marker, sign, d, rest, rfl, letter, signed, digit⟩
  · rw [absent]
    exact List.nil_prefix
  · rw [exponentOf_marked rest letter signed digit]
    exact List.cons_prefix_cons.mpr
      ⟨rfl, (List.prefix_append_right_inj sign).mpr (List.takeWhile_prefix _)⟩

theorem exponent_exponentOf (text : List Char) : Exponent (exponentOf text) := by
  rcases exponentOf_cases text with absent | ⟨marker, sign, d, rest, rfl, letter, signed, digit⟩
  · rw [absent]
    exact .absent
  · rw [exponentOf_marked rest letter signed digit]
    exact .marked letter signed (by simp [digit]) (takeWhile_isDigit _)

theorem numeralOf_front (text : List Char) : numeralOf text <+: text := by
  have parts := List.prefix_iff_eq_append.mp (mantissaOf_front text)
  have front := (List.prefix_append_right_inj (mantissaOf text)).mpr
    (exponentOf_front (text.drop (mantissaOf text).length))
  rwa [parts] at front

theorem Fraction.head_not_digit {fraction exponent : List Char} (hf : Fraction fraction)
    (he : Exponent exponent) : ∀ c rest, fraction ++ exponent = c :: rest → c.isDigit = false := by
  intro c rest hc
  cases hf with
  | absent => exact he.head_not_digit c rest hc
  | point =>
    cases hc
    rfl

theorem fractionOf_of_ne {c : Char} (rest : List Char) (other : c ≠ '.') :
    fractionOf (c :: rest) = [] := by
  unfold fractionOf
  split
  next h => exact absurd (List.cons.inj h).1 other
  next => rfl

theorem Fraction.le_of_prefix {fraction exponent text : List Char} (hf : Fraction fraction)
    (he : Exponent exponent) (front : fraction ++ exponent <+: text) :
    (fraction ++ exponent).length ≤
      (fractionOf text ++ exponentOf (text.drop (fractionOf text).length)).length := by
  cases hf with
  | absent =>
    rw [List.nil_append] at front ⊢
    cases exponent with
    | nil => exact Nat.zero_le _
    | cons marker tail =>
      have bound := he.le_exponentOf front
      have other : marker ≠ '.' := by
        cases he with
        | marked letter =>
          rintro rfl
          simp at letter
      obtain ⟨more, rfl⟩ := front
      rw [List.cons_append] at bound ⊢
      rw [fractionOf_of_ne _ other]
      exact bound
  | @point digits all =>
    obtain ⟨more, rfl⟩ := front
    have inner : digits ++ exponent <+: digits ++ exponent ++ more := List.prefix_append _ _
    rw [List.cons_append, List.cons_append]
    generalize digits ++ exponent ++ more = after at inner ⊢
    have read : fractionOf ('.' :: after) = '.' :: after.takeWhile Char.isDigit := rfl
    have left : ('.' :: after).drop ('.' :: after.takeWhile Char.isDigit).length =
        after.dropWhile Char.isDigit := drop_digits after
    rw [read, left]
    rcases digits_front all he.head_not_digit inner with ⟨rfl, le⟩ | ⟨rfl, front⟩
    · simp only [List.append_nil, List.length_cons, List.length_append]
      omega
    · have bound := he.le_exponentOf front
      simp only [List.cons_append, List.length_cons, List.length_append]
      omega

/-- The numeral that is read from a text is the longest one that the text starts with, and there is
one if its mantissa has a digit. -/
theorem longestFront_numeralOf {text : List Char} (digit : (mantissaOf text).any Char.isDigit) :
    LongestFront Numeral text (numeralOf text) := by
  refine ⟨numeralOf_front text, ?_, ?_⟩
  · refine ⟨text.takeWhile Char.isDigit, fractionOf (text.dropWhile Char.isDigit),
      exponentOf (text.drop (mantissaOf text).length), ?_, takeWhile_isDigit text,
      fraction_fractionOf _, exponent_exponentOf _, ?_⟩
    · rw [numeralOf, mantissaOf, List.append_assoc]
    · exact List.any_eq_true.mp digit
  · -- Another front has the same whole digits, or ends within them.
    rintro other front ⟨whole, fraction, exponent, rfl, all, hf, he, _⟩
    rw [numeralOf, drop_mantissaOf, mantissaOf, List.append_assoc]
    rcases digits_front all (hf.head_not_digit he) front with ⟨ended, le⟩ | ⟨rfl, tail⟩
    · rw [ended, List.append_nil]
      simp only [List.length_append]
      omega
    · have bound := hf.le_of_prefix he tail
      simp only [List.length_append] at bound ⊢
      omega

theorem any_digit_cons {d : Char} (rest : List Char) (digit : d.isDigit) :
    ((d :: rest).takeWhile Char.isDigit).any Char.isDigit := by simp [digit]

theorem any_digit_of_numeral {text other : List Char} (h : Numeral other)
    (front : other <+: text) : (mantissaOf text).any Char.isDigit := by
  obtain ⟨whole, fraction, exponent, rfl, all, hf, he, c, hc, digit⟩ := h
  obtain ⟨more, rfl⟩ := front
  cases whole with
  | cons d whole =>
    have first := any_digit_cons (whole ++ (fraction ++ exponent) ++ more)
      (all d List.mem_cons_self)
    rw [mantissaOf, List.any_append, Bool.or_eq_true]
    exact Or.inl first
  | nil =>
    rw [List.nil_append] at hc ⊢
    cases hf with
    | absent => cases hc
    | @point digits digitsAll =>
      have inner : c ∈ digits := by
        rcases List.mem_cons.mp hc with rfl | inner
        · cases digit
        · exact inner
      obtain ⟨d, digits, rfl⟩ := List.exists_cons_of_ne_nil (List.ne_nil_of_mem inner)
      have first := any_digit_cons (digits ++ exponent ++ more)
        (digitsAll d List.mem_cons_self)
      exact first

/-- The longest numeral at the front of a text is the one that is read. -/
theorem LongestFront.numeralOf_eq {text front : List Char}
    (longest : LongestFront Numeral text front) : numeralOf text = front :=
  (longestFront_numeralOf (any_digit_of_numeral longest.2.1 longest.1)).unique longest

theorem digits_split {digits after : List Char} (all : ∀ c ∈ digits, c.isDigit)
    (stop : ∀ c rest, after = c :: rest → c.isDigit = false) :
    (digits ++ after).takeWhile Char.isDigit = digits ∧
      (digits ++ after).dropWhile Char.isDigit = after := by
  rw [List.takeWhile_append_of_pos all, List.dropWhile_append_of_pos all]
  cases after with
  | nil => simp
  | cons c rest => simp [stop c rest rfl]

theorem exponentValue?_isSome {sign digits : List Char}
    (signed : sign = [] ∨ sign = ['+'] ∨ sign = ['-']) (present : digits ≠ [])
    (all : ∀ c ∈ digits, c.isDigit) : (exponentValue? (sign ++ digits)).isSome := by
  obtain ⟨d, digits, rfl⟩ := List.exists_cons_of_ne_nil present
  have digit := all d List.mem_cons_self
  have every : (d :: digits).all Char.isDigit := List.all_eq_true.mpr all
  rcases signed with rfl | rfl | rfl
  · rw [List.nil_append]
    unfold exponentValue?
    split
    next negative rest sorted =>
      split at sorted
      next h => cases h; cases digit
      next h => cases h; cases digit
      next => cases sorted; simp [every]
  · simp [exponentValue?, every]
  · simp [exponentValue?, every]

theorem Exponent.exponentPart?_isSome {exponent : List Char} (h : Exponent exponent) :
    (exponentPart? exponent).isSome := by
  cases h with
  | absent => rfl
  | marked letter signed present all =>
    simp only [exponentPart?, letter, ↓reduceIte]
    exact exponentValue?_isSome signed present all

theorem Decimal.parse?_of_parts {whole fraction exponent : List Char} {scale : Int}
    (all : ∀ c ∈ whole, c.isDigit) (hf : Fraction fraction) (he : Exponent exponent)
    (digit : ∃ c ∈ whole ++ fraction, c.isDigit) (hs : exponentPart? exponent = some scale) :
    ∃ d, Decimal.parse? (whole ++ (fraction ++ exponent)) = some d := by
  obtain ⟨front, tail⟩ := digits_split all (hf.head_not_digit he)
  obtain ⟨c, hc, digit⟩ := digit
  unfold Decimal.parse?
  simp only [front, tail]
  cases hf with
  | absent =>
    have present : whole.isEmpty = false := by
      rw [List.append_nil] at hc
      exact List.isEmpty_eq_false_iff.mpr (List.ne_nil_of_mem hc)
    rw [List.nil_append]
    split
    next rest =>
      cases he with
      | marked letter => simp at letter
    next =>
      simp only [present, hs, Bool.false_and, Bool.false_eq_true, ↓reduceIte, Option.map_some]
      exact ⟨_, rfl⟩
  | @point digits digitsAll =>
    obtain ⟨inner, last⟩ := digits_split digitsAll he.head_not_digit
    have present : (whole.isEmpty && digits.isEmpty) = false := by
      rw [Bool.and_eq_false_iff]
      rcases List.mem_append.mp hc with h | h
      · exact Or.inl (List.isEmpty_eq_false_iff.mpr (List.ne_nil_of_mem h))
      · rcases List.mem_cons.mp h with rfl | h
        · cases digit
        · exact Or.inr (List.isEmpty_eq_false_iff.mpr (List.ne_nil_of_mem h))
    simp only [List.cons_append, inner, last, present, hs, Bool.false_eq_true, ↓reduceIte,
      Option.map_some]
    exact ⟨_, rfl⟩

/-- Every numeral is a literal that stands for a number or for infinity. -/
theorem Numeral.exists_value {text : List Char} (h : Numeral text) :
    ∃ value, parseUnsigned? text = some value := by
  obtain ⟨whole, fraction, exponent, rfl, all, hf, he, digit⟩ := h
  obtain ⟨scale, hs⟩ := Option.isSome_iff_exists.mp he.exponentPart?_isSome
  obtain ⟨d, hd⟩ := Decimal.parse?_of_parts all hf he digit hs
  exact ⟨_, by rw [parseUnsigned?, hd]; rfl⟩

end Calculator
