import Calculator.Proofs.IntactTokens

namespace Calculator

/-- The source that holds a text in one line. -/
def Source.ofText (text : List Char) : Source := ⟨text.toArray, 0, [], none⟩

theorem Source.unread_ofText (text : List Char) : (ofText text).unread = text := by
  simp [ofText, unread]

theorem Source.whole_ofText (text : List Char) : (ofText text).Whole := List.pairwise_singleton _ _

theorem Source.reading_inj {result other : Except Fault Token} {t u : Source}
    (h : reading result t = reading other u) : result = other ∧ t = u := by
  cases result <;> cases other <;> cases h <;> exact ⟨rfl, rfl⟩

/-- The blanks in front of a lexeme are all the blanks there. -/
theorem blanks_eq_takeWhile {dialect : Dialect} (usable : dialect.Usable)
    {blanks lexeme rest : List Char} {result : Except Fault Token}
    (blank : ∀ c ∈ blanks, isWhitespace c) (here : Lexeme dialect lexeme rest result) :
    (blanks ++ lexeme).takeWhile isWhitespace = blanks := by
  obtain ⟨c, more, rfl, dark⟩ := here.head usable
  rw [List.takeWhile_append_of_pos blank]
  simp [dark]

/-- A text determines the blanks and the lexeme it starts with. -/
theorem Lexeme.unique {dialect : Dialect} (usable : dialect.Usable)
    {blanks blanks' lexeme lexeme' rest rest' : List Char} {result result' : Except Fault Token}
    (blank : ∀ c ∈ blanks, isWhitespace c) (blank' : ∀ c ∈ blanks', isWhitespace c)
    (h : Lexeme dialect lexeme rest result) (h' : Lexeme dialect lexeme' rest' result')
    (same : blanks ++ (lexeme ++ rest) = blanks' ++ (lexeme' ++ rest')) :
    lexeme = lexeme' ∧ result = result' ∧ rest = rest' := by
  obtain ⟨t, read, left⟩ := Source.token_of_lexeme usable (Source.whole_ofText _) rfl blank h
    (Source.unread_ofText _)
  obtain ⟨t', read', left'⟩ := Source.token_of_lexeme usable (Source.whole_ofText _) rfl blank' h'
    (Source.unread_ofText _)
  rw [← same, read] at read'
  obtain ⟨rfl, rfl⟩ := Source.reading_inj read'
  obtain rfl : rest = rest' := left.symm.trans left'
  rw [← List.append_assoc, ← List.append_assoc] at same
  have front := List.append_cancel_right same
  have first := blanks_eq_takeWhile usable blank h
  have second := blanks_eq_takeWhile usable blank' h'
  obtain rfl : blanks = blanks' := by rw [← first, front, second]
  exact ⟨List.append_cancel_left front, rfl, rfl⟩

theorem Segmented.eq_nil_of_blanks {dialect : Dialect} (usable : dialect.Usable) {text : List Char}
    {lexemes : List (List Char × Except Fault Token)} (h : Segmented dialect text lexemes)
    (blank : ∀ c ∈ text, isWhitespace c) : lexemes = [] := by
  cases h with
  | done => rfl
  | next _ here _ =>
    obtain ⟨c, more, rfl, dark⟩ := here.head usable
    rw [blank c (by simp)] at dark
    cases dark

theorem Segmented.unique {dialect : Dialect} (usable : dialect.Usable) {text : List Char}
    {lexemes other : List (List Char × Except Fault Token)} (h : Segmented dialect text lexemes)
    (g : Segmented dialect text other) : lexemes = other := by
  induction h generalizing other with
  | done blank => exact (g.eq_nil_of_blanks usable blank).symm
  | @next blanks lexeme rest result more blank here further ih =>
    generalize ht : blanks ++ (lexeme ++ rest) = text at g
    cases g with
    | done blank' =>
      obtain ⟨c, tail, rfl, dark⟩ := here.head usable
      rw [blank' c (by simp [← ht])] at dark
      cases dark
    | next blank' here' further' =>
      obtain ⟨rfl, rfl, rfl⟩ := Lexeme.unique usable blank blank' here here' ht
      rw [ih further']

theorem exists_lexeme_of_numeral (dialect : Dialect) {text : List Char}
    (digit : (mantissaOf text).any Char.isDigit) :
    ∃ lexeme rest result, text = lexeme ++ rest ∧ Lexeme dialect lexeme rest result := by
  obtain ⟨front, numeral, longest⟩ := longestFront_numeralOf digit
  obtain ⟨rest, split⟩ := front
  obtain ⟨value, stands⟩ := numeral.exists_value
  have here : LongestFront Numeral (numeralOf text ++ rest) (numeralOf text) := by
    rw [split]
    exact ⟨⟨rest, split⟩, numeral, longest⟩
  by_cases finite : isFiniteFloat value = true
  · exact ⟨_, rest, _, split.symm, .number here stands finite⟩
  · exact ⟨_, rest, _, split.symm, .outOfRange here stands (by simpa using finite)⟩

theorem exists_lexeme_of_letter (dialect : Dialect) {c : Char} (text : List Char)
    (letter : isAlphabetic c) :
    ∃ lexeme rest result, c :: text = lexeme ++ rest ∧ Lexeme dialect lexeme rest result := by
  have split := List.takeWhile_append_dropWhile (p := isAlphanumeric) (l := text)
  have run : WordRun (c :: text.takeWhile isAlphanumeric) (text.dropWhile isAlphanumeric) := by
    refine ⟨c, _, rfl, letter, fun d hd => List.all_eq_true.mp List.all_takeWhile d hd, ?_⟩
    intro d after hd
    have stop := List.head?_dropWhile_not isAlphanumeric text
    rw [hd] at stop
    simpa using stop
  have whole : c :: text = c :: text.takeWhile isAlphanumeric ++ text.dropWhile isAlphanumeric := by
    rw [List.cons_append, split]
  by_cases declares : .ofList (c :: text.takeWhile isAlphanumeric) = dialect.declareWord
  · exact ⟨_, _, _, whole, .declareWord run declares⟩
  · by_cases quits : .ofList (c :: text.takeWhile isAlphanumeric) = dialect.quitWord
    · exact ⟨_, _, _, whole, .quitWord run quits⟩
    · exact ⟨_, _, _, whole, .identifier run declares quits⟩

/-- Every text that does not start with a blank starts with a lexeme. -/
theorem exists_lexeme (dialect : Dialect) {c : Char} (text : List Char)
    (dark : isWhitespace c = false) :
    ∃ lexeme rest result, c :: text = lexeme ++ rest ∧ Lexeme dialect lexeme rest result := by
  by_cases symbol : ∃ symbol : Symbol, symbol.toChar dialect.separator = c
  · obtain ⟨symbol, rfl⟩ := symbol
    exact ⟨_, text, _, rfl, .symbol symbol text⟩
  by_cases digit : c.isDigit
  · refine exists_lexeme_of_numeral dialect ?_
    rw [mantissaOf, List.any_append, any_digit_cons text digit, Bool.true_or]
  by_cases point : c = '.'
  · subst point
    by_cases follows : text.head?.any Char.isDigit
    · cases text with
      | nil => cases follows
      | cons d after => exact exists_lexeme_of_numeral dialect (any_digit_cons after follows)
    · refine ⟨['.'], text, _, rfl, .lonePoint ?_⟩
      rintro d after rfl
      simpa using follows
  by_cases letter : isAlphabetic c
  · exact exists_lexeme_of_letter dialect text letter
  · exact ⟨[c], text, _, rfl, .badToken dark (not_exists.mp symbol) (by simpa using digit) point
      (by simpa using letter)⟩

theorem Segmented.blank {dialect : Dialect} {text : List Char}
    {lexemes : List (List Char × Except Fault Token)} {c : Char} (blank : isWhitespace c)
    (h : Segmented dialect text lexemes) : Segmented dialect (c :: text) lexemes := by
  cases h with
  | done all => exact .done (List.forall_mem_cons.mpr ⟨blank, all⟩)
  | next all here further =>
    rw [← List.cons_append]
    exact .next (List.forall_mem_cons.mpr ⟨blank, all⟩) here further

theorem blank_of_dropWhile {text : List Char} (h : text.dropWhile isWhitespace = []) :
    ∀ c ∈ text, isWhitespace c := by
  simpa [List.dropWhile_eq_nil_iff] using h

/-- A text that is not all blank is some blanks, and behind them a character that is none. -/
theorem cut_of_dropWhile {text rest : List Char} {c : Char}
    (h : text.dropWhile isWhitespace = c :: rest) :
    text.takeWhile isWhitespace ++ c :: rest = text ∧
      (∀ d ∈ text.takeWhile isWhitespace, isWhitespace d) ∧ isWhitespace c = false := by
  have whole := List.takeWhile_append_dropWhile (p := isWhitespace) (l := text)
  have stop := List.head?_dropWhile_not isWhitespace text
  rw [h] at whole stop
  exact ⟨whole, fun d hd => List.all_eq_true.mp List.all_takeWhile d hd, by simpa using stop⟩

/-- Every text is cut into blanks and lexemes. -/
theorem exists_segmented {dialect : Dialect} (usable : dialect.Usable) (text : List Char) :
    ∃ lexemes, Segmented dialect text lexemes := by
  cases left : text.dropWhile isWhitespace with
  | nil => exact ⟨[], .done (blank_of_dropWhile left)⟩
  | cons c after =>
    obtain ⟨split, blank, dark⟩ := cut_of_dropWhile left
    obtain ⟨lexeme, rest, result, cut, here⟩ := exists_lexeme dialect after dark
    rw [cut] at split
    -- No lexeme is empty, so what it leaves is shorter.
    have shorter : rest.length < text.length := by
      obtain ⟨d, more, rfl, _⟩ := here.head usable
      rw [← split]
      simp only [List.length_append, List.length_cons]
      omega
    obtain ⟨lexemes, further⟩ := exists_segmented usable rest
    refine ⟨(lexeme, result) :: lexemes, ?_⟩
    rw [← split]
    exact .next blank here further
termination_by text.length

namespace Tokenizer

/-- A tokenizer lists what is read at each lexeme of its text, and then how its source ends. -/
theorem Intact.stream_of_segmented {dialect : Dialect} {text : List Char}
    {lexemes : List (List Char × Except Fault Token)} (cut : Segmented dialect text lexemes)
    {t : Tokenizer} (intact : t.Intact dialect) (free : t.held = none)
    (hu : t.source.unread = text) : t.stream = lexemes.map Prod.snd ++ t.source.ending := by
  induction cut generalizing t with
  | done blank => exact stream_of_blank free (by rwa [hu])
  | @next blanks lexeme rest result more blank here further ih =>
    obtain ⟨source, read, left⟩ := intact.source.token_of_lexeme intact.usable blank here hu
    rw [← intact.same] at read
    obtain ⟨taken, behind⟩ := next_of_token free read
    have tail : t.next.tokens.stream = more.map Prod.snd ++ t.source.ending := by
      rw [← (leads_next t).ending]
      exact ih intact.next (held_next t) (by rw [behind, left])
    cases result with
    | ok token => rw [stream_of_ok taken, tail, List.map_cons, List.cons_append]
    | error fault =>
      rw [stream_of_recoverable taken here.recoverable, tail, List.map_cons, List.cons_append]

theorem stream_of_segmented {dialect : Dialect} (usable : dialect.Usable) {text : List Char}
    {lexemes : List (List Char × Except Fault Token)} (cut : Segmented dialect text lexemes)
    {t : Tokenizer} (same : t.dialect = dialect) (free : t.held = none) (whole : t.source.Whole)
    (normal : t.source.failure = none) (hu : t.source.unread = text) :
    t.stream = lexemes.map Prod.snd := by
  have intact : t.Intact dialect := ⟨same, usable, whole, fun failing => absurd normal failing⟩
  have listed := intact.stream_of_segmented cut free hu
  rwa [Source.ending_of_normal normal, List.append_nil] at listed

end Tokenizer

/-- Tokenizing cuts the text into blanks and lexemes, in the only way there is to cut it, and lists
what is read at each lexeme. -/
theorem stream_segments_text {dialect : Dialect} (accepted : dialect.check = .ok ())
    (bytes : List UInt8) :
    ∃ lexemes, Segmented dialect (decodeLossy bytes) lexemes ∧
      (Tokenizer.ofSource dialect (.ofBytes bytes none)).stream = lexemes.map Prod.snd ∧
      ∀ other, Segmented dialect (decodeLossy bytes) other → other = lexemes := by
  have usable := Dialect.check_eq_ok.mp accepted
  obtain ⟨lexemes, cut⟩ := exists_segmented usable (decodeLossy bytes)
  refine ⟨lexemes, cut, ?_, fun other h => h.unique usable cut⟩
  exact Tokenizer.stream_of_segmented usable cut rfl rfl (Source.whole_ofBytes bytes) rfl
    (Source.unread_ofBytes bytes)

theorem stream_segments_abutting_text : Dialect.check {} = .ok () ∧
    ∃ lexemes, Segmented {} (decodeLossy (encodeUtf8 "1.5.e2+e7quit;\n.5")) lexemes ∧
      (Tokenizer.ofSource {} (.ofBytes (encodeUtf8 "1.5.e2+e7quit;\n.5") none)).stream =
        lexemes.map Prod.snd ∧
      ∀ other, Segmented {} (decodeLossy (encodeUtf8 "1.5.e2+e7quit;\n.5")) other →
        other = lexemes :=
  ⟨rfl, stream_segments_text rfl _⟩

end Calculator
