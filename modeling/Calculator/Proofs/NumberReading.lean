import Calculator.Proofs.Lexeme
import Calculator.Proofs.LineDecoding

namespace Calculator

/-- The form `digits [. digits]` with at least one digit. -/
def Mantissa (text : List Char) : Prop :=
  ∃ whole fraction, text = whole ++ fraction ∧ (∀ c ∈ whole, c.isDigit) ∧ Fraction fraction ∧
    ∃ c ∈ text, c.isDigit

/-- What an exponent cannot go on with behind its marker: no digit comes next, and none behind a
sign. -/
def Dangling (rest : List Char) : Prop :=
  ∀ sign d more, rest = sign ++ d :: more → sign = [] ∨ sign = ['+'] ∨ sign = ['-'] →
    d.isDigit = false

section Grammar

variable {text : List Char}

theorem signed_of_exponentValue? (h : (exponentValue? text).isSome) :
    ∃ sign digits, text = sign ++ digits ∧ (sign = [] ∨ sign = ['+'] ∨ sign = ['-']) ∧
      digits ≠ [] ∧ ∀ c ∈ digits, c.isDigit := by
  have read {negative : Bool} {digits : List Char}
      (h : (if digits.isEmpty || !digits.all Char.isDigit then none
        else some (if negative then -digitsValue digits else digitsValue digits : Int)).isSome) :
      digits ≠ [] ∧ ∀ c ∈ digits, c.isDigit := by
    split at h
    next => cases h
    next valid => simpa using valid
  unfold exponentValue? at h
  split at h
  next negative digits sorted =>
    have valid := read h
    split at sorted
    next =>
      cases sorted
      exact ⟨['-'], digits, rfl, Or.inr (Or.inr rfl), valid⟩
    next =>
      cases sorted
      exact ⟨['+'], digits, rfl, Or.inr (Or.inl rfl), valid⟩
    next =>
      cases sorted
      exact ⟨[], text, rfl, Or.inl rfl, valid⟩

theorem exponent_of_exponentPart? (h : (exponentPart? text).isSome) : Exponent text := by
  cases text with
  | nil => exact .absent
  | cons marker rest =>
    rw [exponentPart?] at h
    split at h
    next letter =>
      obtain ⟨sign, digits, rfl, signed, present, all⟩ := signed_of_exponentValue? h
      exact .marked letter signed present all
    next => cases h

theorem numeral_of_parse? (h : (Decimal.parse? text).isSome) : Numeral text := by
  have parts := List.takeWhile_append_dropWhile (p := Char.isDigit) (l := text)
  have all := takeWhile_isDigit text
  unfold Decimal.parse? at h
  generalize text.takeWhile Char.isDigit = whole at parts all h
  generalize text.dropWhile Char.isDigit = tail at parts h
  subst parts
  split at h
  next digits exponent sorted =>
    dsimp only at h
    split at h
    next => cases h
    next present =>
      rw [Option.isSome_map] at h
      have marked := exponent_of_exponentPart? h
      obtain ⟨c, listed⟩ : ∃ c, c ∈ whole ++ digits :=
        List.exists_mem_of_ne_nil _ (by simpa [List.append_eq_nil_iff] using present)
      split at sorted
      next rest =>
        cases sorted
        have behind := takeWhile_isDigit rest
        have digit := (List.forall_mem_append.mpr ⟨all, behind⟩) c listed
        refine ⟨whole, '.' :: rest.takeWhile Char.isDigit, rest.dropWhile Char.isDigit, ?_, all,
          .point behind, marked, c, ?_, digit⟩
        · rw [List.cons_append, List.takeWhile_append_dropWhile]
        · rw [List.mem_append] at listed ⊢
          exact listed.imp_right (List.mem_cons_of_mem '.')
      next =>
        cases sorted
        have inside : c ∈ whole ++ [] := listed
        exact ⟨whole, [], tail, rfl, all, .absent, marked, c, inside,
          all c (by rwa [List.append_nil] at inside)⟩

/-- The literals that stand for a number are exactly the numerals. -/
theorem parseUnsigned?_isSome_iff : (parseUnsigned? text).isSome ↔ Numeral text := by
  constructor
  · intro h
    rw [parseUnsigned?, Option.isSome_map] at h
    exact numeral_of_parse? h
  · intro numeral
    exact Option.isSome_iff_exists.mpr numeral.exists_value

/-- A marker that no exponent goes on with ends a numeral before it. -/
theorem longestFront_of_dangling {mantissa rest : List Char} {marker : Char}
    (valid : Mantissa mantissa) (letter : marker = 'e' ∨ marker = 'E') (dangling : Dangling rest) :
    LongestFront Numeral (mantissa ++ marker :: rest) mantissa := by
  obtain ⟨whole, fraction, rfl, all, hf, digit⟩ := valid
  have noDigit : ∀ c more, marker :: rest = c :: more → c.isDigit = false := by
    rintro c more same
    cases same
    rcases letter with rfl | rfl <;> rfl
  have point : marker ≠ '.' := by rcases letter with rfl | rfl <;> decide
  have fractionRead : fractionOf (fraction ++ marker :: rest) = fraction ∧
      ∀ c more, fraction ++ marker :: rest = c :: more → c.isDigit = false := by
    cases hf with
    | absent => exact ⟨fractionOf_of_ne rest point, noDigit⟩
    | @point digits inner =>
      refine ⟨congrArg ('.' :: ·) (digits_split inner noDigit).1, ?_⟩
      rintro c more same
      cases same
      rfl
  obtain ⟨front, tail⟩ := digits_split all fractionRead.2
  have mantissaRead : mantissaOf (whole ++ fraction ++ marker :: rest) = whole ++ fraction := by
    rw [List.append_assoc, mantissaOf, front, tail, fractionRead.1]
  have noExponent : exponentOf (marker :: rest) = [] := by
    rcases exponentOf_cases (marker :: rest) with bare | ⟨_, sign, d, more, same, _, signed, found⟩
    · exact bare
    · cases same
      rw [dangling sign d more rfl signed] at found
      cases found
  have found : (mantissaOf (whole ++ fraction ++ marker :: rest)).any Char.isDigit := by
    rw [mantissaRead]
    exact List.any_eq_true.mpr digit
  have longest := longestFront_numeralOf found
  rwa [numeralOf, mantissaRead, List.drop_left, noExponent, List.append_nil] at longest

/-- Where no digit stands in the mantissa, it is a point, or nothing. -/
theorem mantissaOf_of_no_digit (noDigit : ¬(mantissaOf text).any Char.isDigit) :
    mantissaOf text = if text.head? = some '.' then ['.'] else [] := by
  have empty {digits : List Char} (all : ∀ c ∈ digits, c.isDigit)
      (noDigit : ¬digits.any Char.isDigit) : digits = [] := by
    refine List.eq_nil_iff_forall_not_mem.mpr fun c listed => noDigit ?_
    exact List.any_eq_true.mpr ⟨c, listed, all c listed⟩
  rw [mantissaOf, List.any_append, Bool.or_eq_true, not_or] at noDigit
  have front := empty (takeWhile_isDigit text) noDigit.1
  have whole := List.takeWhile_append_dropWhile (p := Char.isDigit) (l := text)
  rw [front, List.nil_append] at whole
  rw [whole] at noDigit
  rw [mantissaOf, front, whole, List.nil_append]
  cases text with
  | nil => rfl
  | cons c rest =>
    by_cases point : c = '.'
    · subst point
      have inner : ¬(rest.takeWhile Char.isDigit).any Char.isDigit := noDigit.2
      exact congrArg ('.' :: ·) (empty (takeWhile_isDigit rest) inner)
    · rw [fractionOf_of_ne rest point, if_neg (by simpa using point)]

end Grammar

namespace Source

variable {s : Source} {bytes : List UInt8}

/-- The line that a source holds is a whole one: it ends with a newline, or the input ends with it,
or none has been fetched yet. Behind it come lines of the input, and no failure. -/
structure HoldsLine (bytes : List UInt8) (s : Source) : Prop where
  normal : s.failure = none
  pending : s.pending <:+ (ofBytes bytes none).pending
  ended : s.line = #[] ∨ s.line.back? = some '\n' ∨ s.pending = []

theorem HoldsLine.whole (held : s.HoldsLine bytes) : s.Whole := by
  have all := (pairwise_pending_ofBytes bytes).sublist held.pending.sublist
  refine List.pairwise_cons.mpr
    ⟨fun later listed => ?_, all.imp fun newline => Or.inr (Or.inr newline)⟩
  rcases held.ended with empty | newline | last
  · exact Or.inr (Or.inl empty)
  · exact Or.inr (Or.inr newline)
  · rw [last] at listed
    cases listed

theorem holdsLine_ofBytes (bytes : List UInt8) : (ofBytes bytes none).HoldsLine bytes :=
  ⟨rfl, List.suffix_refl _, Or.inl rfl⟩

/-- Reading on leads from whole lines to whole lines. -/
theorem HoldsLine.of_leads {t : Source} (held : s.HoldsLine bytes) (leads : s.Leads t) :
    t.HoldsLine bytes := by
  have normal := leads.failure.trans held.normal
  rcases List.suffix_cons_iff.mp leads.lines with same | later
  · obtain ⟨line, pending⟩ := List.cons.inj same
    exact ⟨normal, pending ▸ held.pending, by rw [line, pending]; exact held.ended⟩
  · have fetched := later.trans held.pending
    refine ⟨normal, (List.suffix_cons _ _).trans fetched, Or.inr ?_⟩
    have lines := (pairwise_pending_ofBytes bytes).sublist fetched.sublist
    cases next : t.pending with
    | nil => exact Or.inr rfl
    | cons line rest =>
      rw [next] at lines
      exact Or.inl (List.rel_of_pairwise_cons lines List.mem_cons_self)

/-- Reading a number takes a front of what is to come, and answers the double that it stands for,
unless that is infinite. -/
structure Takes (s : Source) (front : List Char) (value : Float) (t : Source) : Prop where
  stands : parseUnsigned? front = some value
  split : s.unread = front ++ t.unread
  literal : s.literal = .ok front t
  number : s.number = if isFiniteFloat value then .ok value t
    else .error (.lexical (.outOfRange (.ofList front))) t

/-- Reading a number fails, with no more taken than the point, if there is one. -/
structure TakesPoint (s : Source) (point : List Char) (t : Source) : Prop where
  alone : point = if s.unread.head? = some '.' then ['.'] else []
  split : s.unread = point ++ t.unread
  literal : s.literal = .error (.lexical (.noDigits (.ofList point))) t
  number : s.number = .error (.lexical (.noDigits (.ofList point))) t

theorem HoldsLine.takes (held : s.HoldsLine bytes) {front : List Char}
    (longest : LongestFront Numeral s.unread front) : ∃ value t, s.Takes front value t := by
  obtain ⟨t, literal, split⟩ := literal_of_numeral held.whole held.normal longest
  obtain ⟨value, stands⟩ := longest.2.1.exists_value
  exact ⟨value, t, stands, split, literal, number_of_literal literal stands⟩

theorem HoldsLine.takesPoint (held : s.HoldsLine bytes)
    (noDigit : ¬(mantissaOf s.unread).any Char.isDigit) : ∃ point t, s.TakesPoint point t := by
  have taken := literal_normal held.whole held.normal
  rw [if_neg noDigit] at taken
  obtain ⟨t, literal, split⟩ := taken
  exact ⟨_, t, mantissaOf_of_no_digit noDigit, split, literal,
    Scan.bind_eq_error.mpr (Or.inl literal)⟩

/-- There is a longest numeral to take, or none at all. -/
theorem HoldsLine.takes_or_takesPoint (held : s.HoldsLine bytes) :
    (∃ front value t, LongestFront Numeral s.unread front ∧ s.Takes front value t) ∨
      ((∀ front, front <+: s.unread → ¬Numeral front) ∧ ∃ point t, s.TakesPoint point t) := by
  by_cases digit : (mantissaOf s.unread).any Char.isDigit
  · have longest := longestFront_numeralOf digit
    obtain ⟨value, t, takes⟩ := held.takes longest
    exact Or.inl ⟨_, value, t, longest, takes⟩
  · refine Or.inr ⟨fun front inside numeral => ?_, held.takesPoint digit⟩
    exact digit (any_digit_of_numeral numeral inside)

/-- What is looked up as a literal is a numeral. -/
theorem HoldsLine.numeral_of_literal (held : s.HoldsLine bytes) {literal : List Char} {t : Source}
    (taken : s.literal = .ok literal t) : Numeral literal := by
  rcases held.takes_or_takesPoint with ⟨front, value, u, longest, takes⟩ | ⟨_, point, u, fails⟩
  · cases takes.literal.symm.trans taken
    exact longest.2.1
  · cases fails.literal.symm.trans taken

theorem HoldsLine.number_ne_malformed (held : s.HoldsLine bytes) (text : String) (t : Source) :
    s.number ≠ .error (.lexical (.malformed text)) t := by
  intro malformed
  rcases held.takes_or_takesPoint with ⟨front, value, u, _, takes⟩ | ⟨_, point, u, fails⟩
  · have number := takes.number
    split at number
    next => cases number.symm.trans malformed
    next => cases number.symm.trans malformed
  · cases fails.number.symm.trans malformed

end Source

/-- At whatever position of a whole line a number is read, the longest numeral that comes there is
taken, and stands for the double that is answered unless it is infinite; without a numeral no more
than a point is taken. A marker that no exponent goes on with is left, and no literal is malformed,
since the numerals are just the texts that stand for a double. -/
theorem number_takes_longest_numeral (bytes : List UInt8) {s : Source}
    (held : s.HoldsLine bytes) :
    ((∃ front value t, LongestFront Numeral s.unread front ∧ s.Takes front value t) ∨
      ((∀ front, front <+: s.unread → ¬Numeral front) ∧ ∃ point t, s.TakesPoint point t)) ∧
      (∀ mantissa marker rest, Mantissa mantissa → marker = 'e' ∨ marker = 'E' → Dangling rest →
        s.unread = mantissa ++ marker :: rest →
          ∃ value t, s.Takes mantissa value t ∧ t.unread = marker :: rest) ∧
      (∀ literal t, s.literal = .ok literal t → Numeral literal) ∧
      (∀ text, (parseUnsigned? text).isSome ↔ Numeral text) ∧
      ∀ text t, s.number ≠ .error (.lexical (.malformed text)) t := by
  refine ⟨held.takes_or_takesPoint, ?_, fun _ _ => held.numeral_of_literal,
    fun _ => parseUnsigned?_isSome_iff, held.number_ne_malformed⟩
  intro mantissa marker rest valid letter dangling split
  obtain ⟨value, t, takes⟩ := held.takes (split ▸ longestFront_of_dangling valid letter dangling)
  have same := takes.split
  rw [split] at same
  exact ⟨value, t, takes, (List.append_cancel_left same).symm⟩

/-- In the middle of a line, a marker and a sign at the end of the line are left. -/
theorem number_takes_longest_numeral_dangling :
    ∃ s, (Source.ofBytes (encodeUtf8 "(1.5e+\n2") none).next = .ok (some '(') s ∧
      s.HoldsLine (encodeUtf8 "(1.5e+\n2") ∧
      ∃ value t, s.Takes "1.5".toList value t ∧ t.unread = "e+\n2".toList := by
  have unread : (Source.ofBytes (encodeUtf8 "(1.5e+\n2") none).unread = "(1.5e+\n2".toList := by
    rw [Source.unread_ofBytes, decodeLossy_encodeUtf8]
  obtain ⟨s, taken, left⟩ := Source.next_of_unread_cons unread
  have held := (Source.holdsLine_ofBytes _).of_leads ((Source.reaches_next _).leads taken)
  have mantissa : Mantissa "1.5".toList :=
    ⟨['1'], ['.', '5'], rfl, List.forall_mem_singleton.mpr rfl,
      .point (List.forall_mem_singleton.mpr rfl), '1', List.mem_cons_self, rfl⟩
  have dangling : Dangling "+\n2".toList := by
    rintro sign d more same (rfl | rfl | rfl)
    · cases same
      rfl
    · cases same
      rfl
    · cases same
  obtain ⟨value, t, takes, rest⟩ := (number_takes_longest_numeral _ held).2.1 _ 'e' _ mantissa
    (Or.inl rfl) dangling left
  exact ⟨s, taken, held, value, t, takes, rest⟩

end Calculator
