import Calculator.Proofs.Script
import Calculator.Proofs.Segmentation

namespace Calculator

theorem Exponent.mem {text : List Char} (h : Exponent text) {c : Char} (hc : c ∈ text) :
    isAlphanumeric c ∨ isReserved c := by
  cases h with
  | absent => cases hc
  | @marked marker sign digits letter signed _ all =>
    rcases List.mem_cons.mp hc with rfl | hc
    · rcases letter with rfl | rfl
      · exact Or.inl rfl
      · exact Or.inl rfl
    · rcases List.mem_append.mp hc with plus | digit
      · rcases signed with rfl | rfl | rfl
        · cases plus
        · exact Or.inr (List.mem_singleton.mp plus ▸ rfl)
        · exact Or.inr (List.mem_singleton.mp plus ▸ rfl)
      · exact Or.inl (isAlphanumeric_of_isDigit (all c digit))

theorem Numeral.mem {text : List Char} (h : Numeral text) {c : Char} (hc : c ∈ text) :
    isAlphanumeric c ∨ isReserved c := by
  obtain ⟨whole, fraction, exponent, rfl, all, hf, he, _⟩ := h
  rcases List.mem_append.mp hc with digit | hc
  · exact Or.inl (isAlphanumeric_of_isDigit (all c digit))
  · rcases List.mem_append.mp hc with point | mark
    · cases hf with
      | absent => cases point
      | point digits =>
        rcases List.mem_cons.mp point with rfl | digit
        · exact Or.inr rfl
        · exact Or.inl (isAlphanumeric_of_isDigit (digits c digit))
    · exact he.mem mark

theorem WordRun.mem {lexeme rest : List Char} (run : WordRun lexeme rest) {c : Char}
    (hc : c ∈ lexeme) : isAlphanumeric c := by
  obtain ⟨first, more, rfl, letter, all, _⟩ := run
  rcases List.mem_cons.mp hc with rfl | hc
  · exact isAlphanumeric_of_isAlphabetic letter
  · exact all c hc

/-- A separator is a lexeme of its own and stands in no other one. -/
theorem Lexeme.separator {dialect : Dialect} (usable : dialect.Usable) {lexeme rest : List Char}
    {result : Except Fault Token} (h : Lexeme dialect lexeme rest result) :
    (lexeme = [dialect.separator] ∧ result = .ok (.punct .separator)) ∨
      (dialect.separator ∉ lexeme ∧ result ≠ .ok (.punct .separator)) := by
  have noWord : ¬isAlphanumeric dialect.separator := by simp [usable.noWord]
  have noReserved : ¬isReserved dialect.separator := by simp [usable.noReserved]
  have numeral : Numeral lexeme → dialect.separator ∉ lexeme := fun h hc =>
    (h.mem hc).elim noWord noReserved
  have word : WordRun lexeme rest → dialect.separator ∉ lexeme := fun run hc => noWord (run.mem hc)
  cases h with
  | symbol symbol =>
    by_cases same : symbol = .separator
    · rw [same]
      exact Or.inl ⟨rfl, rfl⟩
    · refine Or.inr ⟨?_, by simpa using same⟩
      rw [List.mem_singleton]
      exact usable.separator_ne (Symbol.isReserved_toChar dialect.separator same)
  | number longest => exact Or.inr ⟨numeral longest.2.1, by simp⟩
  | outOfRange longest => exact Or.inr ⟨numeral longest.2.1, by simp⟩
  | lonePoint =>
    refine Or.inr ⟨?_, by simp⟩
    rw [List.mem_singleton]
    exact usable.separator_ne rfl
  | declareWord run => exact Or.inr ⟨word run, by simp⟩
  | quitWord run => exact Or.inr ⟨word run, by simp⟩
  | identifier run => exact Or.inr ⟨word run, by simp⟩
  | badToken _ noSymbol =>
    refine Or.inr ⟨?_, by simp⟩
    rw [List.mem_singleton]
    exact noSymbol .separator

/-- The first separator character of a text, if there is one, is its first separator lexeme. -/
theorem Segmented.cut {dialect : Dialect} (usable : dialect.Usable) {text : List Char}
    {lexemes : List (List Char × Except Fault Token)} (h : Segmented dialect text lexemes) :
    (dialect.separator ∉ text ∧ Script.separator ∉ lexemes.map Prod.snd) ∨
      ∃ before after further, ∃ earlier : Script, text = before ++ dialect.separator :: after ∧
        dialect.separator ∉ before ∧ Segmented dialect after further ∧
        lexemes.map Prod.snd = earlier ++ Script.separator :: further.map Prod.snd ∧
        Script.separator ∉ earlier := by
  have noBlank {blanks : List Char} (blank : ∀ c ∈ blanks, isWhitespace c) :
      dialect.separator ∉ blanks := by
    intro hc
    have blank := blank _ hc
    rw [usable.noBlank] at blank
    cases blank
  induction h with
  | done blank => exact Or.inl ⟨noBlank blank, List.not_mem_nil⟩
  | @next blanks lexeme rest result more blank here further ih =>
    rcases here.separator usable with ⟨rfl, rfl⟩ | ⟨absent, other⟩
    · exact Or.inr ⟨blanks, rest, more, [], rfl, noBlank blank, further, rfl, List.not_mem_nil⟩
    · rw [List.map_cons]
      rcases ih with ⟨unseen, unlisted⟩ | ⟨before, after, later, earlier, rfl, unseen, cut, listed, first⟩
      · refine Or.inl ⟨?_, List.not_mem_cons_of_ne_of_not_mem other.symm unlisted⟩
        simp only [List.mem_append, not_or]
        exact ⟨noBlank blank, absent, unseen⟩
      · refine Or.inr ⟨blanks ++ (lexeme ++ before), after, later, result :: earlier, ?_, ?_, cut,
          ?_, List.not_mem_cons_of_ne_of_not_mem other.symm first⟩
        · simp only [List.append_assoc]
        · simp only [List.mem_append, not_or]
          exact ⟨noBlank blank, absent, unseen⟩
        · rw [listed, List.cons_append]

namespace Script

theorem dropThroughSeparator_of_not_mem {script : Script} (absent : separator ∉ script) :
    dropThroughSeparator script = [] := by
  induction script with
  | nil => rfl
  | cons first rest ih =>
    have other := List.ne_of_not_mem_cons absent
    have later := List.not_mem_of_not_mem_cons absent
    rw [dropThroughSeparator_of_ne other.symm, ih later]

theorem dropThroughSeparator_of_first {front : Script} (absent : separator ∉ front)
    (rest : Script) : dropThroughSeparator (front ++ separator :: rest) = rest := by
  induction front with
  | nil => rfl
  | cons first front ih =>
    have other := List.ne_of_not_mem_cons absent
    have later := List.not_mem_of_not_mem_cons absent
    rw [List.cons_append, dropThroughSeparator_of_ne other.symm, ih later]

end Script

theorem Source.separator_not_mem_ending (s : Source) : Script.separator ∉ s.ending := by
  unfold ending
  split <;> simp

namespace Tokenizer

variable {dialect : Dialect} {t : Tokenizer}

theorem holds_separator {t : Tokenizer} (usable : t.dialect.Usable) :
    t.holds t.dialect.separator = true ↔ t.held = some (.punct .separator) := by
  unfold holds
  constructor
  · intro h
    split at h
    next symbol held =>
      have same : symbol.toChar t.dialect.separator = t.dialect.separator := by simpa using h
      have read := usable.ofChar?_toChar symbol
      have separator := usable.ofChar?_toChar .separator
      rw [same] at read
      rw [held, Option.some.inj (read.symm.trans separator)]
    next => cases h
  · intro held
    rw [held]
    exact decide_eq_true rfl

theorem dropThroughSeparator_of_held {t : Tokenizer} (other : t.held ≠ some (.punct .separator)) :
    Script.dropThroughSeparator t.stream =
      Script.dropThroughSeparator { t with held := none : Tokenizer }.stream := by
  cases held : t.held with
  | none =>
    obtain ⟨dialect, source, slot⟩ := t
    cases held
    rfl
  | some token =>
    have differs : (.ok token : Except Fault Token) ≠ .ok (.punct .separator) := by
      rintro h
      cases h
      exact other held
    rw [stream_of_held held, Script.dropThroughSeparator_of_ne differs]

theorem mem_stream_of_held (other : t.held ≠ some (.punct .separator)) :
    Script.separator ∈ t.stream ↔ Script.separator ∈ { t with held := none : Tokenizer }.stream := by
  cases held : t.held with
  | none =>
    obtain ⟨dialect, source, slot⟩ := t
    cases held
    rfl
  | some token =>
    have differs : Script.separator ≠ .ok token := by
      rintro h
      cases h
      exact other held
    rw [stream_of_held held, List.mem_cons, or_iff_right differs]

/-- What skipping characters through the next separator comes to: it skips tokens through the next
one, or there is none, and then it goes to the end and fails if the source does. -/
structure Skips (dialect : Dialect) (t : Tokenizer) (skip : Step Unit) : Prop where
  free : skip.tokens.held = none
  found : Script.separator ∈ t.stream → skip.result = .ok () ∧
    skip.tokens.stream = Script.dropThroughSeparator t.stream ∧
    ∀ text, t.ToRead text →
      ∃ front, text = front ++ dialect.separator :: skip.tokens.source.unread
  missing : Script.separator ∉ t.stream → skip.tokens.source.unread = [] ∧
    skip.tokens.stream = t.source.ending ∧ skip.result = match t.source.failure with
      | none => .ok ()
      | some text => .error (.device text)

theorem Intact.discardThrough_held (intact : t.Intact dialect)
    (held : t.held = some (.punct .separator)) :
    Skips dialect t (t.discardThrough dialect.separator) := by
  have listed := stream_of_held held
  have holds := (holds_separator (intact.same ▸ intact.usable)).mpr held
  rw [intact.same] at holds
  rw [discardThrough, if_pos holds]
  refine ⟨rfl, fun _ => ⟨rfl, ?_, fun text read => ?_⟩, fun absent => ?_⟩
  · rw [listed]
    rfl
  · cases read with
    | source free => cases free.symm.trans held
    | held held' here =>
      cases held.symm.trans held'
      rw [intact.same] at here
      rcases here.separator intact.usable with ⟨rfl, _⟩ | ⟨_, other⟩
      · exact ⟨[], rfl⟩
      · exact absurd rfl other
  · rw [listed] at absent
    exact absurd List.mem_cons_self absent

theorem Intact.discardThrough_free (intact : t.Intact dialect)
    (other : t.held ≠ some (.punct .separator)) :
    Skips dialect t (t.discardThrough dialect.separator) := by
  have free : ¬t.holds dialect.separator = true := by
    intro holds
    rw [← intact.same] at holds
    exact other ((holds_separator (intact.same ▸ intact.usable)).mp holds)
  have bare : Intact dialect { t with held := none } := ⟨intact.same, intact.usable, intact.source⟩
  obtain ⟨lexemes, segmented⟩ := exists_segmented intact.usable t.source.unread
  have listed : { t with held := none : Tokenizer }.stream =
      lexemes.map Prod.snd ++ t.source.ending := bare.stream_of_segmented segmented rfl rfl
  have member := mem_stream_of_held other
  have dropped := dropThroughSeparator_of_held other
  rw [listed] at member dropped
  have last := t.source.separator_not_mem_ending
  rw [discardThrough, if_neg free]
  rcases segmented.cut intact.usable with
    ⟨absent, unlisted⟩ | ⟨before, after, further, earlier, hu, absent, later, cut, first⟩
  · have missing : Script.separator ∉ t.stream := by
      rw [member, List.mem_append, not_or]
      exact ⟨unlisted, last⟩
    have reached := Source.reaches_skipThrough dialect.separator 0 t.source
    have spent : ∀ source : Source, t.source.Leads source → source.unread = [] →
        (⟨t.dialect, source, none⟩ : Tokenizer).stream = t.source.ending := by
      intro source leads used
      have blank : ∀ c ∈ source.unread, isWhitespace c := used ▸ List.forall_mem_nil _
      rw [← leads.ending]
      exact stream_of_blank rfl blank
    obtain ⟨source, used, ⟨normal, count, skips⟩ | ⟨text, failing, skips⟩⟩ :=
      intact.source.skipThrough_of_absent absent 0
    · have ends := spent source (reached.leads skips) used
      rw [skips]
      exact ⟨rfl, fun listed => absurd listed missing, fun _ => ⟨used, ends, by rw [normal]⟩⟩
    · have ends := spent source (reached.broken skips).1 used
      rw [skips]
      exact ⟨rfl, fun listed => absurd listed missing, fun _ => ⟨used, ends, by rw [failing]⟩⟩
  · obtain ⟨count, source, skips, left⟩ := Source.skipThrough_of_unread absent hu 0
    have leads := (Source.reaches_skipThrough _ _ t.source).leads skips
    have rest : Intact dialect ⟨t.dialect, source, none⟩ :=
      ⟨intact.same, intact.usable, intact.source.of_leads leads⟩
    have here : Script.separator ∈ t.stream := by
      rw [member, cut]
      simp
    rw [cut, List.append_assoc, List.cons_append, Script.dropThroughSeparator_of_first first]
      at dropped
    rw [skips]
    refine ⟨rfl, fun _ => ⟨rfl, ?_, fun text read => ?_⟩, fun missing => absurd here missing⟩
    · rw [dropped, ← leads.ending]
      exact rest.stream_of_segmented later rfl left
    · cases read with
      | source => exact ⟨before, by rw [hu, left]⟩
      | @held token lexeme => exact ⟨lexeme ++ before, by rw [hu, left, List.append_assoc]⟩

theorem Intact.discardThrough (intact : t.Intact dialect) :
    Skips dialect t (t.discardThrough dialect.separator) := by
  by_cases held : t.held = some (.punct .separator)
  · exact intact.discardThrough_held held
  · exact intact.discardThrough_free held

/-- Skipping characters through the next separator skips tokens through the next one. -/
theorem discardThrough_separator {t : Tokenizer} (usable : t.dialect.Usable)
    (whole : t.source.Whole) (normal : t.source.failure = none) :
    (t.discardThrough t.dialect.separator).result = .ok () ∧
      (t.discardThrough t.dialect.separator).tokens.stream =
        Script.dropThroughSeparator t.stream := by
  have intact : t.Intact t.dialect := ⟨rfl, usable, whole, fun failing => absurd normal failing⟩
  obtain ⟨_, found, missing⟩ := intact.discardThrough
  by_cases listed : Script.separator ∈ t.stream
  · exact ⟨(found listed).1, (found listed).2.1⟩
  · obtain ⟨_, ends, result⟩ := missing listed
    rw [normal] at result
    rw [ends, Source.ending_of_normal normal, Script.dropThroughSeparator_of_not_mem listed]
    exact ⟨result, rfl⟩

end Tokenizer

end Calculator
