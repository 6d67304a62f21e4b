import Calculator.Proofs.FailingSource
import Calculator.Proofs.Stream

namespace Calculator

namespace Source

variable {s t : Source} {dialect : Dialect}

/-- A text of blanks is read to its end, and there the source ends as it does. -/
theorem token_of_blank (dialect : Dialect) {s : Source}
    (blank : ∀ c ∈ s.unread, isWhitespace c) :
    ∃ t, token dialect s = .error s.endFault t ∧ t.unread = [] := by
  cases hu : s.unread with
  | nil => exact ⟨s.fill, token_of_unread_nil hu, (unread_fill s).trans hu⟩
  | cons c rest =>
    rw [hu] at blank
    obtain ⟨here, later⟩ := List.forall_mem_cons.mp blank
    obtain ⟨u, taken, left⟩ := next_of_unread_cons hu
    have leads := (reaches_next s).leads taken
    have skipped : token dialect s = token dialect u := by
      simp only [token, bind, EStateM.bind, nextNonBlank_of_next taken, if_pos here]
    obtain ⟨t, ended, used⟩ := token_of_blank dialect (by rwa [left])
    exact ⟨t, by rw [skipped, ended, leads.endFault], used⟩
termination_by s.unread.length
decreasing_by simp [left, hu]

/-- A source whose characters are all there, with a failure, if there is one, behind whole lines. -/
structure Intact (s : Source) : Prop where
  whole : s.Whole
  lined : s.failure ≠ none → s.Lined

theorem Intact.of_leads (intact : s.Intact) (leads : s.Leads t) : t.Intact := by
  refine ⟨intact.whole.of_leads leads, fun failing => ?_⟩
  rw [leads.failure] at failing
  exact (intact.lined failing).of_leads leads

theorem intact_ofBytes (bytes : List UInt8) (failure : Option String) :
    (ofBytes bytes failure).Intact := by
  cases failure with
  | none => exact ⟨whole_ofBytes bytes, fun failing => absurd rfl failing⟩
  | some text =>
    rw [ofBytes_failing]
    exact ⟨whole_ofBytes (wholeLines bytes), fun _ => lined_wholeLines bytes⟩

/-- A source either ends or is one that ends with a failure put behind it. -/
theorem Intact.cases (intact : s.Intact) : s.failure = none ∨
    ∃ text, s.failure = some text ∧ s = s.close.failing text ∧ s.close.Whole ∧ s.close.Lined := by
  cases failure : s.failure with
  | none => exact Or.inl rfl
  | some text =>
    refine Or.inr ⟨text, rfl, ?_, intact.whole, intact.lined (by simp [failure])⟩
    obtain ⟨line, pos, pending, ending⟩ := s
    cases failure
    rfl

/-- Behind blanks a lexeme is read, whatever its source ends with. -/
theorem Intact.token_of_lexeme (intact : s.Intact) (usable : dialect.Usable)
    {blanks lexeme rest : List Char} {result : Except Fault Token}
    (blank : ∀ c ∈ blanks, isWhitespace c) (here : Lexeme dialect lexeme rest result)
    (hu : s.unread = blanks ++ (lexeme ++ rest)) :
    ∃ t, token dialect s = reading result t ∧ t.unread = rest := by
  rcases intact.cases with normal | ⟨text, _, same, whole, lined⟩
  · exact Source.token_of_lexeme usable intact.whole normal blank here hu
  · have unread : s.close.unread = blanks ++ (lexeme ++ rest) := hu
    obtain ⟨t, read, left⟩ := Source.token_of_lexeme usable whole rfl blank here unread
    refine ⟨t.failing text, ?_, left⟩
    rw [same, (token_failing dialect lined rfl text).1, read]
    cases result with
    | ok token => rfl
    | error fault =>
      have kept : fault.orDevice text = fault := Fault.orDevice_of_recoverable here.recoverable
      simp only [reading, failingResult, kept]

/-- Without a target, skipping goes to the end, and fails where the source does. -/
theorem Intact.skipThrough_of_absent (intact : s.Intact) {target : Char}
    (absent : target ∉ s.unread) (skipped : Nat) :
    ∃ t, t.unread = [] ∧
      ((s.failure = none ∧ ∃ count, skipThrough target skipped s = .ok (false, count) t) ∨
        ∃ text, s.failure = some text ∧
          skipThrough target skipped s = .error (.device text) t) := by
  rcases intact.cases with normal | ⟨text, failing, same, _, _⟩
  · obtain ⟨count, t, skips, used⟩ := Source.skipThrough_of_absent normal absent skipped
    exact ⟨t, used, Or.inl ⟨normal, count, skips⟩⟩
  · have missing : target ∉ s.close.unread := absent
    obtain ⟨count, t, skips, used⟩ := Source.skipThrough_of_absent rfl missing skipped
    rcases skipThrough_failing (s := s.close) rfl text target skipped with
      ⟨_, _, found, _⟩ | ⟨_, u, _, used, fails⟩
    · cases skips.symm.trans found
    · rw [← same] at fails
      exact ⟨u.failing text, used, Or.inr ⟨text, failing, fails⟩⟩

/-- What the list of tokens of a source ends with. -/
def ending (s : Source) : List (Except Fault Token) :=
  match s.failure with
  | none => []
  | some text => [.error (.device text)]

theorem ending_of_normal (normal : s.failure = none) : s.ending = [] := by
  rw [ending, normal]

theorem ending_congr (same : s.failure = t.failure) : s.ending = t.ending := by
  rw [ending, ending, same]

theorem Leads.ending (leads : s.Leads t) : t.ending = s.ending := ending_congr leads.failure

end Source

namespace Tokenizer

variable {dialect : Dialect} {t u : Tokenizer}

/-- A tokenizer of a usable dialect over an intact source. -/
structure Intact (dialect : Dialect) (t : Tokenizer) : Prop where
  same : t.dialect = dialect
  usable : dialect.Usable
  source : t.source.Intact

theorem Intact.next (intact : t.Intact dialect) : t.next.tokens.Intact dialect :=
  ⟨(dialect_next t).trans intact.same, intact.usable, intact.source.of_leads (leads_next t)⟩

theorem next_of_token {t : Tokenizer} {result : Except Fault Token} {source : Source}
    (free : t.held = none) (h : t.source.token t.dialect = Source.reading result source) :
    t.next.result = result ∧ t.next.tokens.source = source := by
  simp only [next, free, h]
  cases result <;> exact ⟨rfl, rfl⟩

theorem next_of_blank (free : t.held = none) (blank : ∀ c ∈ t.source.unread, isWhitespace c) :
    t.next.result = .error t.source.endFault ∧ t.next.tokens.source.unread = [] := by
  obtain ⟨source, run, used⟩ := Source.token_of_blank t.dialect blank
  have read : t.source.token t.dialect = Source.reading (.error t.source.endFault) source := run
  obtain ⟨taken, behind⟩ := next_of_token free read
  exact ⟨taken, behind ▸ used⟩

theorem stream_of_blank (free : t.held = none) (blank : ∀ c ∈ t.source.unread, isWhitespace c) :
    t.stream = t.source.ending := by
  have ended := (next_of_blank free blank).1
  cases failing : t.source.failure with
  | none =>
    have finish : t.source.endFault = .endOfInput := by rw [Source.endFault, failing]
    rw [finish] at ended
    rw [stream_of_final ended rfl, Source.ending_of_normal failing]
    rfl
  | some text =>
    have finish : t.source.endFault = .device text := by rw [Source.endFault, failing]
    rw [finish] at ended
    rw [stream_of_final ended rfl, Source.ending, failing]
    rfl

/-- A text that a tokenizer has still to read: what its source has to give, behind a lexeme of the
token that was given back. -/
inductive ToRead (t : Tokenizer) : List Char → Prop where
  | source (free : t.held = none) : ToRead t t.source.unread
  | held {token : Token} {lexeme : List Char} (held : t.held = some token)
    (here : Lexeme t.dialect lexeme t.source.unread (.ok token)) :
    ToRead t (lexeme ++ t.source.unread)

end Tokenizer

end Calculator
