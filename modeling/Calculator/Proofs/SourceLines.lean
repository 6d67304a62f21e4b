import Calculator.Proofs.StreamSteps

namespace Calculator

variable {α β : Type}

/-- One source comes from another by reading on: it still has the same way to end, and of the lines
it may have dropped only the first ones. -/
structure Source.Leads (s t : Source) : Prop where
  failure : t.failure = s.failure
  lines : t.line :: t.pending <:+ s.line :: s.pending

namespace Source

theorem Leads.refl (s : Source) : s.Leads s := ⟨rfl, List.suffix_refl _⟩

theorem Leads.trans {s t u : Source} (h : s.Leads t) (g : t.Leads u) : s.Leads u :=
  ⟨g.failure.trans h.failure, g.lines.trans h.lines⟩

theorem leads_fill (s : Source) : s.Leads s.fill := by
  refine ⟨failure_fill s, ?_⟩
  unfold fill
  split
  next => exact List.suffix_refl _
  next =>
    split
    next => exact List.suffix_refl _
    next line rest hp =>
      have dropped := List.dropWhile_suffix (l := s.pending) Array.isEmpty
      rw [hp] at dropped
      exact dropped.trans (List.suffix_cons _ _)

theorem leads_advance (s : Source) (n : Nat) : s.Leads (s.advance n) := ⟨rfl, List.suffix_refl _⟩

/-- Giving back the character just taken is a step back in the present line. -/
theorem leads_putBack {s : Source} {c : Char} (behind : 0 < s.pos)
    (h : s.line[s.pos - 1]? = some c) : s.Leads (putBack c s) := by
  have step : putBack c s = { s with pos := s.pos - 1 } := by simp [putBack, behind, h]
  rw [step]
  exact ⟨rfl, List.suffix_refl _⟩

theorem Leads.endFault {s t : Source} (h : s.Leads t) : t.endFault = s.endFault := by
  unfold Source.endFault
  rw [h.failure]

end Source

/-- A result left by reading on from a source, where a fault that nothing recovers from comes only
when there is nothing left to read. -/
def Source.Reaches (s : Source) : EStateM.Result Fault Source α → Prop
  | .ok _ t => s.Leads t
  | .error fault t =>
    s.Leads t ∧ (fault.recoverable = false → t.unread = [] ∧ fault = s.endFault)

namespace Source

theorem Reaches.of_leads {s t : Source} {r : EStateM.Result Fault Source α} (first : s.Leads t)
    (h : t.Reaches r) : s.Reaches r := by
  cases r with
  | ok a u => exact first.trans h
  | error fault u =>
    obtain ⟨further, final⟩ := h
    exact ⟨first.trans further, fun hf => ⟨(final hf).1, (final hf).2.trans first.endFault⟩⟩

theorem Reaches.leads {s t : Source} {r : EStateM.Result Fault Source α} {a : α} (h : s.Reaches r)
    (ok : r = .ok a t) : s.Leads t := by
  rw [ok] at h
  exact h

theorem Reaches.broken {s t : Source} {r : EStateM.Result Fault Source α} {fault : Fault}
    (h : s.Reaches r) (error : r = .error fault t) :
    s.Leads t ∧ (fault.recoverable = false → t.unread = [] ∧ fault = s.endFault) := by
  rw [error] at h
  exact h

theorem reaches_bind {x : Scan α} {f : α → Scan β} {s : Source} (hx : s.Reaches (x s))
    (hf : ∀ a t, x s = .ok a t → t.Reaches (f a t)) : s.Reaches ((x >>= f) s) := by
  cases he : x s with
  | error fault t =>
    rw [he] at hx
    have run : (x >>= f) s = .error fault t := Scan.bind_eq_error.mpr (Or.inl he)
    rw [run]
    exact hx
  | ok a t =>
    rw [he] at hx
    have run : (x >>= f) s = f a t := by simp only [bind, EStateM.bind, he]
    rw [run]
    exact (hf a t he).of_leads hx

theorem reaches_pure (a : α) (s : Source) : s.Reaches ((pure a : Scan α) s) := Leads.refl s

theorem reaches_ite {p : Prop} [Decidable p] {x y : Scan α} {s : Source}
    (hx : p → s.Reaches (x s)) (hy : ¬p → s.Reaches (y s)) :
    s.Reaches ((if p then x else y) s) := by
  by_cases h : p
  · rw [if_pos h]
    exact hx h
  · rw [if_neg h]
    exact hy h

theorem reaches_throw {fault : Fault} (recoverable : fault.recoverable = true) (s : Source) :
    s.Reaches ((throw fault : Scan α) s) :=
  ⟨Leads.refl s, fun final => by rw [recoverable] at final; cases final⟩

theorem reaches_advance (n : Nat) (s : Source) :
    s.Reaches ((modify (advance n) : Scan PUnit) s) := leads_advance s n

theorem reaches_peek (s : Source) : s.Reaches (peek s) := by
  cases hu : s.unread with
  | cons c rest =>
    rw [peek_of_unread_cons hu]
    exact leads_fill s
  | nil =>
    rw [peek_of_unread_nil hu]
    cases hf : s.failure with
    | none => exact leads_fill s
    | some text =>
      exact ⟨leads_fill s, fun _ => ⟨by rw [unread_fill, hu], by simp only [endFault, hf]⟩⟩

theorem reaches_next (s : Source) : s.Reaches (next s) := by
  apply reaches_bind (reaches_peek s)
  intro c t _
  cases c with
  | none => exact reaches_pure _ t
  | some c => exact reaches_bind (reaches_advance 1 t) fun _ _ _ => reaches_pure _ _

theorem reaches_nextNonBlank (s : Source) : s.Reaches (nextNonBlank s) := by
  fun_induction nextNonBlank s with
  | case1 s c rest taken blank ih => exact ih.of_leads ((reaches_next s).leads taken)
  | case2 s c rest taken dark => exact (reaches_next s).leads taken
  | case3 s rest taken => exact (reaches_next s).leads taken
  | case4 s broken rest taken => exact (reaches_next s).broken taken

theorem reaches_takeWhile (test : Char → Bool) (s : Source) :
    s.Reaches (takeWhile test s) := by
  fun_induction takeWhile test s with
  | case1 s c here seen pass more rest eq ih =>
    have first := (reaches_peek s).leads seen
    rw [eq] at ih
    exact (first.trans (leads_advance here 1)).trans ih
  | case2 s c here seen pass broken rest eq ih =>
    have first := (reaches_peek s).leads seen
    rw [eq] at ih
    exact Reaches.of_leads (first.trans (leads_advance here 1)) ih
  | case3 s c here seen fails => exact (reaches_peek s).leads seen
  | case4 s here seen => exact (reaches_peek s).leads seen
  | case5 s broken here seen => exact (reaches_peek s).broken seen

theorem reaches_skipThrough (target : Char) (skipped : Nat) (s : Source) :
    s.Reaches (skipThrough target skipped s) := by
  fun_induction skipThrough target skipped s with
  | case1 skipped s rest taken => exact (reaches_next s).leads taken
  | case2 skipped s c rest taken other ih => exact ih.of_leads ((reaches_next s).leads taken)
  | case3 skipped s rest taken => exact (reaches_next s).leads taken
  | case4 skipped s broken rest taken => exact (reaches_next s).broken taken

theorem reaches_fractionPart (s : Source) : s.Reaches (fractionPart s) := by
  apply reaches_bind (reaches_peek s)
  intro c t _
  apply reaches_ite
  · intro _
    apply reaches_bind (reaches_advance 1 t)
    intro _ u _
    exact reaches_bind (reaches_takeWhile _ u) fun _ _ _ => reaches_pure _ _
  · exact fun _ => reaches_pure _ t

theorem reaches_exponentPart (s : Source) : s.Reaches (exponentPart s) := by
  apply reaches_bind (reaches_peek s)
  intro c t _
  cases c with
  | none => exact reaches_pure _ t
  | some marker =>
    apply reaches_bind (show t.Reaches ((get : Scan Source) t) from Leads.refl t)
    intro here u _
    apply reaches_ite
    · intro _
      apply reaches_bind (reaches_advance _ u)
      intro _ v _
      exact reaches_bind (reaches_takeWhile _ v) fun _ _ _ => reaches_pure _ _
    · exact fun _ => reaches_pure _ u

theorem reaches_literal (s : Source) : s.Reaches (literal s) := by
  apply reaches_bind (reaches_takeWhile _ s)
  intro whole t _
  apply reaches_bind (reaches_fractionPart t)
  intro fraction u _
  apply reaches_ite
  · intro _
    exact reaches_bind (reaches_exponentPart u) fun _ _ _ => reaches_pure _ _
  · exact fun _ => reaches_throw rfl u

theorem reaches_number (s : Source) : s.Reaches (number s) := by
  apply reaches_bind (reaches_literal s)
  intro taken t _
  cases literalValue taken with
  | ok value => exact reaches_pure _ t
  | error cause => exact reaches_throw rfl t

/-- Skipping blanks finds no character only at an end that is no failure. -/
theorem nextNonBlank_none {s t : Source} (h : nextNonBlank s = .ok none t) :
    t.unread = [] ∧ s.failure = none := by
  fun_induction nextNonBlank s with
  | case1 s c rest taken blank ih =>
    obtain ⟨used, normal⟩ := ih h
    have first := (reaches_next s).leads taken
    exact ⟨used, first.failure ▸ normal⟩
  | case2 => cases h
  | case3 s rest taken =>
    cases h
    refine ⟨unread_of_next_none taken, ?_⟩
    cases hu : s.unread with
    | nil =>
      rw [next_of_unread_nil hu] at taken
      cases hf : s.failure with
      | none => rfl
      | some text => rw [hf] at taken; cases taken
    | cons c more =>
      rw [next_of_peek (peek_of_unread_cons hu)] at taken
      cases taken
  | case4 => cases h

theorem reaches_token (dialect : Dialect) (s : Source) : s.Reaches (token dialect s) := by
  apply reaches_bind (reaches_nextNonBlank s)
  intro c t hc
  cases c with
  | none =>
    have first := (reaches_nextNonBlank s).leads hc
    obtain ⟨used, normal⟩ := nextNonBlank_none hc
    refine ⟨Leads.refl t, fun _ => ⟨used, ?_⟩⟩
    simp only [endFault, first.failure, normal]
  | some c =>
    obtain ⟨_, behind, value, _⟩ := nextNonBlank_some hc
    simp only [tokenFrom]
    cases Symbol.ofChar? dialect.separator c with
    | some symbol => exact reaches_pure _ t
    | none =>
      apply reaches_ite
      · intro _
        apply reaches_bind (show t.Reaches ((modify (putBack c) : Scan PUnit) t) from
          leads_putBack behind value)
        intro _ u _
        exact reaches_bind (reaches_number u) fun _ _ _ => reaches_pure _ _
      · intro _
        apply reaches_ite
        · exact fun _ => reaches_bind (reaches_takeWhile _ t) fun _ _ _ => reaches_pure _ _
        · exact fun _ => reaches_throw rfl t

/-- Only the last line that holds anything may lack its newline. -/
def Whole (s : Source) : Prop :=
  (s.line :: s.pending).Pairwise fun line later =>
    later = #[] ∨ line = #[] ∨ line.back? = some '\n'

theorem Whole.of_leads {s t : Source} (whole : s.Whole) (h : s.Leads t) : t.Whole :=
  whole.sublist h.lines.sublist

theorem unread_of_last_line {s : Source} (whole : s.Whole) {c : Char}
    (last : s.line.back? = some c) (inner : c ≠ '\n') : s.unread = s.line.toList.drop s.pos := by
  have later : ∀ line ∈ s.pending, line = #[] := by
    intro line hm
    rcases List.rel_of_pairwise_cons whole hm with empty | empty | newline
    · exact empty
    · rw [empty] at last
      cases last
    · rw [last] at newline
      exact absurd (Option.some.inj newline) inner
  have nothing : s.pending.flatMap Array.toList = [] := by
    apply List.flatMap_eq_nil_iff.mpr
    intro line hm
    rw [later line hm]
  rw [unread, nothing, List.append_nil]

theorem ahead_of_lt {s : Source} {n : Nat} (h : s.pos + n < s.line.size) :
    s.ahead n = s.unread[n]? := by
  have bound : n < (s.line.toList.drop s.pos).length := by simp; omega
  rw [unread, List.getElem?_append_left bound, List.getElem?_drop, ahead, Array.getElem?_toList]

/-- Looking one place further than a character that is no newline sees what is there to come,
although it sees the present line only. -/
theorem ahead_succ {s : Source} (whole : s.Whole) {n : Nat} {c : Char}
    (here : s.ahead n = some c) (inner : c ≠ '\n') : s.ahead (n + 1) = s.unread[n + 1]? := by
  obtain ⟨bound, value⟩ := Array.getElem?_eq_some_iff.mp here
  by_cases more : s.pos + (n + 1) < s.line.size
  · exact ahead_of_lt more
  · -- The line ends here without a newline, so nothing is to come behind it.
    have last : s.line.back? = some c := by
      rw [Array.back?_eq_getElem?, show s.line.size - 1 = s.pos + n by omega]
      exact here
    rw [unread_of_last_line whole last inner]
    have beyond : (s.line.toList.drop s.pos).length ≤ n + 1 := by simp; omega
    rw [List.getElem?_eq_none beyond]
    exact Array.getElem?_eq_none (by omega)

end Source

end Calculator
