import Calculator.Number.Decimal
import Calculator.Source

namespace Calculator

namespace Source

/-- Takes a point and the digits behind it, if there is a point. -/
def fractionPart : Scan (List Char) := do
  if (← peek) = some '.' then
    modify (advance 1)
    let digits ← takeWhile Char.isDigit
    return '.' :: digits
  else return []

/-- Takes an exponent if there is a whole one: a marker without a digit behind it, or behind its
sign, is not taken. -/
def exponentPart : Scan (List Char) := do
  match ← peek with
  | none => return []
  | some marker =>
    let s ← get
    let sign := (s.ahead 1).filter fun c => c = '+' ∨ c = '-'
    let lead := marker :: sign.toList
    if (marker = 'e' ∨ marker = 'E') ∧ (s.ahead lead.length).any Char.isDigit then
      modify (advance lead.length)
      let digits ← takeWhile Char.isDigit
      return lead ++ digits
    else return []

/-- Takes the longest literal `digits [. digits] [(e|E) [+|-] digits]`. The digits before the
exponent may be missing on one side of the point only. -/
def literal : Scan (List Char) := do
  let whole ← takeWhile Char.isDigit
  let fraction ← fractionPart
  let mantissa := whole ++ fraction
  if mantissa.any Char.isDigit then
    let exponent ← exponentPart
    return mantissa ++ exponent
  else throw (.lexical (.noDigits (.ofList mantissa)))

/-- The number that a literal stands for, if it is not too large. -/
def literalValue (literal : List Char) : Except LexicalFault Float :=
  match parseUnsigned? literal with
  | none => .error (.malformed (.ofList literal))
  | some value => if isFiniteFloat value then .ok value else .error (.outOfRange (.ofList literal))

/-- Takes a literal and answers its number. -/
def number : Scan Float := do
  match literalValue (← literal) with
  | .ok value => return value
  | .error cause => throw (.lexical cause)

theorem fractionPart_ok {s s' : Source} {taken : List Char}
    (h : fractionPart s = .ok taken s') : s.unread = taken ++ s'.unread := by
  obtain ⟨c, here, hp, h⟩ := Scan.bind_eq_ok.mp h
  split at h
  next point =>
    subst point
    obtain ⟨_, _, hm, h⟩ := Scan.bind_eq_ok.mp h
    cases hm
    obtain ⟨digits, rest, hd, h⟩ := Scan.bind_eq_ok.mp h
    cases h
    rw [unread_of_peek hp, (takeWhile_ok hd).1, List.cons_append]
  next =>
    cases h
    rw [unread_of_peek_ok hp, List.nil_append]

theorem exponentPart_ok {s s' : Source} {taken : List Char}
    (h : exponentPart s = .ok taken s') : s.unread = taken ++ s'.unread := by
  obtain ⟨c, here, hp, h⟩ := Scan.bind_eq_ok.mp h
  cases c with
  | none =>
    cases h
    rw [unread_of_peek_ok hp, List.nil_append]
  | some marker =>
    obtain ⟨_, _, hg, h⟩ := Scan.bind_eq_ok.mp h
    cases hg
    split at h
    next whole =>
      obtain ⟨_, _, hm, h⟩ := Scan.bind_eq_ok.mp h
      cases hm
      obtain ⟨digits, rest, hd, h⟩ := Scan.bind_eq_ok.mp h
      cases h
      rw [unread_of_peek hp, List.append_assoc, ← (takeWhile_ok hd).1]
      cases hs : (here.ahead 1).filter fun c => c = '+' ∨ c = '-' with
      | none => rfl
      | some sign =>
        obtain ⟨one, _⟩ := Option.filter_eq_some_iff.mp hs
        simp only [Option.toList_some, List.length_cons, List.length_nil, List.cons_append,
          List.nil_append]
        rw [unread_of_getElem? (s := here.advance 1) one]
        rfl
    next =>
      cases h
      rw [unread_of_peek_ok hp, List.nil_append]

/-- A literal is what stood at the front, and it has a digit before its exponent. -/
theorem literal_ok {s s' : Source} {taken : List Char} (h : literal s = .ok taken s') :
    s.unread = taken ++ s'.unread ∧ taken ≠ [] := by
  obtain ⟨whole, s₁, hw, h⟩ := Scan.bind_eq_ok.mp h
  obtain ⟨fraction, s₂, hf, h⟩ := Scan.bind_eq_ok.mp h
  split at h
  next digit =>
    obtain ⟨exponent, s₃, he, h⟩ := Scan.bind_eq_ok.mp h
    cases h
    refine ⟨?_, ?_⟩
    · rw [(takeWhile_ok hw).1, fractionPart_ok hf, exponentPart_ok he]
      simp only [List.append_assoc]
    · intro empty
      rw [(List.append_eq_nil_iff.mp empty).1] at digit
      cases digit
  next => cases h

theorem fractionPart_error {s s' : Source} {fault : Fault}
    (h : fractionPart s = .error fault s') : fault.recoverable = false := by
  rcases Scan.bind_eq_error.mp h with hp | ⟨c, here, hp, h⟩
  · exact (peek_error hp).1
  · split at h
    next =>
      rcases Scan.bind_eq_error.mp h with hm | ⟨_, _, hm, h⟩
      · cases hm
      · rcases Scan.bind_eq_error.mp h with hd | ⟨_, _, hd, h⟩
        · exact (takeWhile_error hd).1
        · cases h
    next => cases h

theorem exponentPart_error {s s' : Source} {fault : Fault}
    (h : exponentPart s = .error fault s') : fault.recoverable = false := by
  rcases Scan.bind_eq_error.mp h with hp | ⟨c, here, hp, h⟩
  · exact (peek_error hp).1
  · cases c with
    | none => cases h
    | some marker =>
      obtain ⟨_, _, hg, h⟩ := (Scan.bind_eq_error.mp h).resolve_left (by rintro ⟨⟩)
      cases hg
      split at h
      next =>
        obtain ⟨_, _, hm, h⟩ := (Scan.bind_eq_error.mp h).resolve_left (by rintro ⟨⟩)
        rcases Scan.bind_eq_error.mp h with hd | ⟨_, _, hd, h⟩
        · exact (takeWhile_error hd).1
        · cases h
      next => cases h

theorem fractionPart_of_point {s s' : Source} {taken rest : List Char}
    (h : fractionPart s = .ok taken s') (point : s.unread = '.' :: rest) : taken ≠ [] := by
  obtain ⟨c, here, hp, h⟩ := Scan.bind_eq_ok.mp h
  split at h
  next =>
    obtain ⟨_, _, hm, h⟩ := Scan.bind_eq_ok.mp h
    obtain ⟨digits, _, hd, h⟩ := Scan.bind_eq_ok.mp h
    cases h
    simp
  next other =>
    rw [peek_of_unread_cons point] at hp
    cases hp
    exact absurd rfl other

/-- A literal that starts with a digit or a point takes at least that character, also when it
turns out to have no digit. -/
theorem literal_error {s s' : Source} {fault : Fault} {c : Char} {rest : List Char}
    (h : literal s = .error fault s') (recoverable : fault.recoverable = true)
    (front : s.unread = c :: rest) (start : c.isDigit ∨ c = '.') :
    s'.unread.length < s.unread.length := by
  rcases Scan.bind_eq_error.mp h with hw | ⟨whole, s₁, hw, h⟩
  · rw [(takeWhile_error hw).1] at recoverable
    cases recoverable
  rcases Scan.bind_eq_error.mp h with hf | ⟨fraction, s₂, hf, h⟩
  · rw [fractionPart_error hf] at recoverable
    cases recoverable
  obtain ⟨split₁, digits, stop⟩ := takeWhile_ok hw
  split at h
  next =>
    rcases Scan.bind_eq_error.mp h with he | ⟨_, _, _, h⟩
    · rw [exponentPart_error he] at recoverable
      cases recoverable
    · cases h
  next =>
    cases h
    rw [split₁, fractionPart_ok hf]
    simp only [List.length_append]
    have nonempty : whole ≠ [] ∨ fraction ≠ [] := by
      cases whole with
      | cons d more => exact Or.inl (List.cons_ne_nil d more)
      | nil =>
        rw [List.nil_append] at split₁
        rw [front] at split₁
        rcases start with digit | rfl
        · rw [stop c rest split₁.symm] at digit
          cases digit
        · exact Or.inr (fractionPart_of_point hf split₁.symm)
    rcases nonempty with h | h
    · have := List.length_pos_iff.mpr h
      omega
    · have := List.length_pos_iff.mpr h
      omega

/-- Reading a number goes forward. -/
theorem number_ok {s s' : Source} {value : Float} (h : number s = .ok value s') :
    s'.unread.length < s.unread.length := by
  obtain ⟨taken, rest, hl, h⟩ := Scan.bind_eq_ok.mp h
  cases hv : literalValue taken <;> rw [hv] at h <;> cases h
  obtain ⟨whole, nonempty⟩ := literal_ok hl
  have := List.length_pos_iff.mpr nonempty
  rw [whole, List.length_append]
  omega

theorem number_error {s s' : Source} {fault : Fault} {c : Char} {rest : List Char}
    (h : number s = .error fault s') (recoverable : fault.recoverable = true)
    (front : s.unread = c :: rest) (start : c.isDigit ∨ c = '.') :
    s'.unread.length < s.unread.length := by
  rcases Scan.bind_eq_error.mp h with hl | ⟨taken, here, hl, h⟩
  · exact literal_error hl recoverable front start
  · cases hv : literalValue taken <;> rw [hv] at h <;> cases h
    obtain ⟨whole, nonempty⟩ := literal_ok hl
    have := List.length_pos_iff.mpr nonempty
    rw [whole, List.length_append]
    omega

end Source

end Calculator
