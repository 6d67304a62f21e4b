import Calculator.Proofs.Numeral

namespace Calculator

namespace Source

theorem peek_normal {s : Source} (normal : s.failure = none) :
    peek s = .ok s.unread.head? s.fill := by
  cases hu : s.unread with
  | nil =>
    have run := peek_of_unread_nil hu
    rwa [normal] at run
  | cons c rest => exact peek_of_unread_cons hu

theorem next_not_error {s t : Source} {fault : Fault} (normal : s.failure = none) :
    next s ≠ .error fault t := by
  intro taken
  rcases Scan.bind_eq_error.mp taken with hp | ⟨c, here, hp, taken⟩
  · rw [peek_normal normal] at hp
    cases hp
  · cases c <;> cases taken

theorem next_of_unread_cons {s : Source} {c : Char} {text : List Char}
    (hu : s.unread = c :: text) : ∃ t, next s = .ok (some c) t ∧ t.unread = text := by
  have taken := next_of_peek (peek_of_unread_cons hu)
  have left := unread_of_next taken
  rw [hu] at left
  exact ⟨_, taken, (List.cons.inj left).2.symm⟩

theorem normal_of_leads {s t : Source} (normal : s.failure = none) (h : s.Leads t) :
    t.failure = none := h.failure.trans normal

theorem takeWhile_not_error {test : Char → Bool} {s t : Source} {fault : Fault}
    (normal : s.failure = none) (h : takeWhile test s = .error fault t) : False := by
  fun_induction takeWhile test s with
  | case1 => cases h
  | case2 s c here seen pass broken rest eq ih =>
    cases h
    have first := ((reaches_peek s).leads seen).trans (leads_advance here 1)
    exact ih (normal_of_leads normal first) eq
  | case3 => cases h
  | case4 => cases h
  | case5 s broken here seen =>
    rw [peek_normal normal] at seen
    cases seen

/-- Where reading never fails, the longest front that passes a test is taken. -/
theorem takeWhile_normal (test : Char → Bool) {s : Source} (normal : s.failure = none) :
    ∃ t, takeWhile test s = .ok (s.unread.takeWhile test) t ∧
      t.unread = s.unread.dropWhile test := by
  cases h : takeWhile test s with
  | error fault t => exact (takeWhile_not_error normal h).elim
  | ok taken t =>
    obtain ⟨whole, all, stop⟩ := takeWhile_ok h
    have first : s.unread.takeWhile test = taken := by
      rw [whole, List.takeWhile_append_of_pos all]
      cases hu : t.unread with
      | nil => simp
      | cons c rest => simp [stop c rest hu]
    have second : s.unread.dropWhile test = t.unread := by
      rw [whole, List.dropWhile_append_of_pos all]
      cases hu : t.unread with
      | nil => rfl
      | cons c rest => simp [stop c rest hu]
    exact ⟨t, by rw [first], second.symm⟩

theorem fractionPart_normal {s : Source} (normal : s.failure = none) :
    ∃ t, fractionPart s = .ok (fractionOf s.unread) t := by
  by_cases point : s.unread.head? = some '.'
  · obtain ⟨rest, hu⟩ := List.head?_eq_some_iff.mp point
    have seen := peek_of_unread_cons hu
    have left : (s.fill.advance 1).unread = rest := by
      have whole := unread_of_peek seen
      rw [hu] at whole
      exact (List.cons.inj whole).2.symm
    have kept := normal_of_leads normal ((leads_fill s).trans (leads_advance _ 1))
    obtain ⟨t, taken, _⟩ := takeWhile_normal Char.isDigit kept
    rw [left] at taken
    refine ⟨t, Scan.bind_eq_ok.mpr ⟨_, _, seen, ?_⟩⟩
    rw [if_pos rfl, hu]
    exact Scan.bind_eq_ok.mpr ⟨_, _, rfl, Scan.bind_eq_ok.mpr ⟨_, _, taken, rfl⟩⟩
  · have noFraction : fractionOf s.unread = [] := by
      cases hu : s.unread with
      | nil => rfl
      | cons c rest =>
        rw [hu] at point
        exact fractionOf_of_ne rest (by simpa using point)
    refine ⟨s.fill, Scan.bind_eq_ok.mpr ⟨_, _, peek_normal normal, ?_⟩⟩
    rw [if_neg point, noFraction]
    rfl

/-- The places looked at for an exponent show the text that is to come. -/
theorem ahead_exponent {s : Source} (whole : s.Whole) {marker : Char} {rest : List Char}
    (hu : s.unread = marker :: rest) (here : s.line[s.pos]? = some marker)
    (letter : marker = 'e' ∨ marker = 'E') :
    ((s.ahead 1).filter fun c => c = '+' ∨ c = '-').toList = signOf s.unread ∧
      s.ahead (marker :: signOf s.unread).length =
        s.unread[(marker :: signOf s.unread).length]? := by
  have inner : marker ≠ '\n' := by rcases letter with rfl | rfl <;> decide
  have one : s.ahead 1 = s.unread[1]? := ahead_succ whole (n := 0) here inner
  refine ⟨by rw [one, signOf], ?_⟩
  cases hs : s.unread[1]?.filter (fun c => c = '+' ∨ c = '-') with
  | none =>
    have sign_eq : signOf s.unread = [] := by rw [signOf, hs]; rfl
    rw [sign_eq]
    exact one
  | some sign =>
    have sign_eq : signOf s.unread = [sign] := by rw [signOf, hs]; rfl
    obtain ⟨found, signed⟩ := Option.filter_eq_some_iff.mp hs
    have other : sign ≠ '\n' := by
      rintro rfl
      simp at signed
    rw [sign_eq]
    exact ahead_succ whole (one.trans found) other

theorem unread_advance_of_ahead {s : Source} {n : Nat} {c : Char} (h : s.ahead n = some c) :
    (s.advance n).unread = s.unread.drop n := by
  obtain ⟨bound, _⟩ := Array.getElem?_eq_some_iff.mp h
  have le : n ≤ (s.line.toList.drop s.pos).length := by simp; omega
  simp only [unread, advance]
  rw [List.drop_append_of_le_length le, List.drop_drop]

theorem exponentPart_normal {s : Source} (whole : s.Whole) (normal : s.failure = none) :
    ∃ t, exponentPart s = .ok (exponentOf s.unread) t := by
  have seen := peek_normal normal
  cases hu : s.unread with
  | nil =>
    rw [hu] at seen
    exact ⟨s.fill, Scan.bind_eq_ok.mpr ⟨_, _, seen, rfl⟩⟩
  | cons marker rest =>
    have same : s.fill.unread = marker :: rest := (unread_fill s).trans hu
    have here : s.fill.line[s.fill.pos]? = some marker := by rw [getElem?_fill, hu]; rfl
    rw [hu] at seen
    have kept := whole.of_leads (leads_fill s)
    by_cases letter : marker = 'e' ∨ marker = 'E'
    · obtain ⟨sign, digit⟩ := ahead_exponent kept same here letter
      rw [same] at sign digit
      by_cases found : (marker :: rest)[(marker :: signOf (marker :: rest)).length]?.any Char.isDigit
      · obtain ⟨d, hd, _⟩ := (Option.any_eq_true _ _).mp found
        have left := unread_advance_of_ahead (digit.trans hd)
        obtain ⟨t, taken, _⟩ := takeWhile_normal Char.isDigit
          (normal_of_leads normal ((leads_fill s).trans (leads_advance _ _)))
        rw [left, same] at taken
        refine ⟨t, Scan.bind_eq_ok.mpr ⟨_, _, seen, Scan.bind_eq_ok.mpr ⟨_, _, rfl, ?_⟩⟩⟩
        simp only [sign, digit, exponentOf]
        rw [if_pos ⟨letter, found⟩, if_pos ⟨letter, found⟩]
        exact Scan.bind_eq_ok.mpr ⟨_, _, rfl, Scan.bind_eq_ok.mpr ⟨_, _, taken, rfl⟩⟩
      · refine ⟨s.fill, Scan.bind_eq_ok.mpr ⟨_, _, seen, Scan.bind_eq_ok.mpr ⟨_, _, rfl, ?_⟩⟩⟩
        simp only [sign, digit, exponentOf]
        rw [if_neg fun h => found h.2, if_neg fun h => found h.2]
        rfl
    · refine ⟨s.fill, Scan.bind_eq_ok.mpr ⟨_, _, seen, Scan.bind_eq_ok.mpr ⟨_, _, rfl, ?_⟩⟩⟩
      simp only [exponentOf]
      rw [if_neg fun h => letter h.1, if_neg fun h => letter h.1]
      rfl

/-- A literal is the numeral that the text starts with. Without a digit before the exponent it
fails, and what stood for the mantissa is taken all the same. -/
theorem literal_normal {s : Source} (whole : s.Whole) (normal : s.failure = none) :
    if (mantissaOf s.unread).any Char.isDigit then
      ∃ t, literal s = .ok (numeralOf s.unread) t
    else ∃ t, literal s = .error (.lexical (.noDigits (.ofList (mantissaOf s.unread)))) t ∧
      s.unread = mantissaOf s.unread ++ t.unread := by
  obtain ⟨t, digits, left⟩ := takeWhile_normal Char.isDigit normal
  have leadsT := (reaches_takeWhile _ s).leads digits
  obtain ⟨u, fraction⟩ := fractionPart_normal (normal_of_leads normal leadsT)
  have leadsU := leadsT.trans ((reaches_fractionPart t).leads fraction)
  have rest := fractionPart_ok fraction
  rw [left] at fraction rest
  have parts : s.unread = mantissaOf s.unread ++ u.unread := by
    rw [mantissaOf, List.append_assoc, ← rest, List.takeWhile_append_dropWhile]
  have after := drop_of_append parts
  split
  next digit =>
    obtain ⟨v, exponent⟩ := exponentPart_normal (whole.of_leads leadsU)
      (normal_of_leads normal leadsU)
    refine ⟨v, Scan.bind_eq_ok.mpr ⟨_, _, digits, Scan.bind_eq_ok.mpr ⟨_, _, fraction, ?_⟩⟩⟩
    rw [mantissaOf] at digit
    rw [if_pos digit, numeralOf, after]
    exact Scan.bind_eq_ok.mpr ⟨_, _, exponent, rfl⟩
  next digit =>
    refine ⟨u, ?_, parts⟩
    refine Scan.bind_eq_error.mpr (Or.inr ⟨_, _, digits, Scan.bind_eq_error.mpr
      (Or.inr ⟨_, _, fraction, ?_⟩)⟩)
    rw [mantissaOf] at digit
    rw [if_neg digit]
    rfl

theorem skipThrough_of_next {target : Char} {skipped : Nat} {s t : Source} {c : Char}
    (h : next s = .ok (some c) t) : skipThrough target skipped s =
      if c = target then .ok (true, skipped) t else skipThrough target (skipped + 1) t := by
  rw [skipThrough]
  split
  next d u taken =>
    cases h.symm.trans taken
    rfl
  next u taken => cases h.symm.trans taken
  next fault u taken => cases h.symm.trans taken

/-- Skipping stops right behind the first target. -/
theorem skipThrough_of_unread {target : Char} {before after : List Char} {s : Source}
    (absent : target ∉ before) (hu : s.unread = before ++ target :: after) (skipped : Nat) :
    ∃ count t, skipThrough target skipped s = .ok (true, count) t ∧ t.unread = after := by
  induction before generalizing s skipped with
  | nil =>
    obtain ⟨t, seen, left⟩ := next_of_unread_cons hu
    refine ⟨skipped, t, ?_, left⟩
    rw [skipThrough_of_next seen, if_pos rfl]
  | cons c before ih =>
    obtain ⟨u, seen, left⟩ := next_of_unread_cons hu
    have other : c ≠ target := fun same => absent (same ▸ List.mem_cons_self)
    obtain ⟨count, t, found, rest⟩ :=
      ih (fun later => absent (List.mem_cons_of_mem c later)) left (skipped + 1)
    refine ⟨count, t, ?_, rest⟩
    rw [skipThrough_of_next seen, if_neg other, found]

/-- Without a target, skipping goes to the end of input. -/
theorem skipThrough_of_absent {target : Char} {s : Source} (normal : s.failure = none)
    (absent : target ∉ s.unread) (skipped : Nat) :
    ∃ count t, skipThrough target skipped s = .ok (false, count) t ∧ t.unread = [] := by
  fun_induction skipThrough target skipped s with
  | case1 skipped s rest taken =>
    rw [unread_of_next taken] at absent
    exact absurd List.mem_cons_self absent
  | case2 skipped s c rest taken other ih =>
    rw [unread_of_next taken] at absent
    have leads := (reaches_next s).leads taken
    exact ih (normal_of_leads normal leads) fun later => absent (List.mem_cons_of_mem c later)
  | case3 skipped s rest taken => exact ⟨skipped, rest, rfl, unread_of_next_none taken⟩
  | case4 skipped s fault rest taken => exact absurd taken (next_not_error normal)

end Source

end Calculator
