import Calculator.Proofs.CleanScripts
import Calculator.Proofs.Segmentation
import Calculator.Proofs.SessionOfTokens
import Calculator.Proofs.WordTokens

namespace Calculator

/-- A text that no word and no number goes on with. -/
def Halts (text : List Char) : Prop :=
  ∀ c rest, text = c :: rest → isAlphanumeric c = false ∧ isReserved c = false

theorem halts_nil : Halts [] := nofun

theorem halts_cons {c : Char} (noWord : isAlphanumeric c = false) (noReserved : isReserved c = false)
    (rest : List Char) : Halts (c :: rest) := by
  rintro _ _ same
  cases same
  exact ⟨noWord, noReserved⟩

theorem isReserved_of_isWhitespace {c : Char} (blank : isWhitespace c) : isReserved c = false := by
  cases h : isReserved c with
  | false => rfl
  | true =>
    rw [(classes_of_isReserved h).2] at blank
    cases blank

theorem halts_blank {c : Char} (blank : isWhitespace c) (rest : List Char) : Halts (c :: rest) :=
  halts_cons (isAlphanumeric_of_isWhitespace blank) (isReserved_of_isWhitespace blank) rest

theorem Dialect.Usable.halts {dialect : Dialect} (usable : dialect.Usable) (rest : List Char) :
    Halts (dialect.separator :: rest) := halts_cons usable.noWord usable.noReserved rest

theorem Halts.noDigit {after : List Char} (halts : Halts after) :
    ∀ c rest, after = c :: rest → c.isDigit = false := by
  intro c rest same
  cases digit : c.isDigit with
  | false => rfl
  | true =>
    have word := isAlphanumeric_of_isDigit digit
    rw [(halts c rest same).1] at word
    cases word

theorem Halts.noPoint {after : List Char} (halts : Halts after) : ∀ rest, after ≠ '.' :: rest := by
  intro rest same
  have reserved := (halts '.' rest same).2
  cases reserved

/-- A word runs up to a text that halts it. -/
theorem WordRun.of_halts {word rest : List Char} (letters : isWord word) (halts : Halts rest) :
    WordRun word rest := by
  obtain ⟨first, more, rfl, letter, all⟩ := exists_of_isWord letters
  exact ⟨first, more, rfl, letter, all, fun c after same => (halts c after same).1⟩

theorem Lexeme.of_name {dialect : Dialect} {name : String} {rest : List Char}
    (letters : isWord name.toList) (noDeclare : name ≠ dialect.declareWord)
    (noQuit : name ≠ dialect.quitWord) (halts : Halts rest) :
    Lexeme dialect name.toList rest (.ok (.identifier name)) := by
  have read := @Lexeme.identifier dialect _ _ (.of_halts letters halts)
    (by rwa [String.ofList_toList]) (by rwa [String.ofList_toList])
  rwa [String.ofList_toList] at read

/-- A front of a text without the character that follows ends before it. -/
theorem prefix_before {c : Char} {other before after : List Char} (absent : c ∉ other)
    (front : other <+: before ++ c :: after) : other <+: before := by
  rcases List.prefix_or_prefix_of_prefix front (List.prefix_append before (c :: after))
    with inside | ⟨beyond, rfl⟩
  · exact inside
  · rw [List.prefix_append_right_inj] at front
    cases beyond with
    | nil => exact ⟨[], by rw [List.append_nil, List.append_nil]⟩
    | cons d beyond =>
      obtain ⟨rfl, _⟩ := List.cons_prefix_cons.mp front
      exact absurd (List.mem_append_right before List.mem_cons_self) absent

/-- A numeral at the end of a text does not get longer by a text that halts it. -/
theorem LongestFront.append {text lexeme after : List Char} (halts : Halts after)
    (longest : LongestFront Numeral text lexeme) : LongestFront Numeral (text ++ after) lexeme := by
  obtain ⟨front, here, longest⟩ := longest
  refine ⟨front.trans (List.prefix_append _ _), here, fun other front numeral => ?_⟩
  cases after with
  | nil => exact longest other (by rwa [List.append_nil] at front) numeral
  | cons c after =>
    obtain ⟨noWord, noReserved⟩ := halts c after rfl
    have absent : c ∉ other := by
      intro hc
      rcases numeral.mem hc with word | reserved
      · rw [noWord] at word
        cases word
      · rw [noReserved] at reserved
        cases reserved
    exact longest other (prefix_before absent front) numeral

theorem WordRun.append {lexeme rest after : List Char} (halts : Halts after)
    (run : WordRun lexeme rest) : WordRun lexeme (rest ++ after) := by
  obtain ⟨first, more, rfl, letter, all, stop⟩ := run
  refine ⟨first, more, rfl, letter, all, fun c later same => ?_⟩
  cases rest with
  | nil => exact (halts c later same).1
  | cons d rest =>
    cases same
    exact stop c rest rfl

/-- No lexeme changes when its text is followed by one that halts words and numbers. -/
theorem Lexeme.append {dialect : Dialect} {lexeme rest after : List Char}
    {result : Except Fault Token} (halts : Halts after) (h : Lexeme dialect lexeme rest result) :
    Lexeme dialect lexeme (rest ++ after) result := by
  have numeral : LongestFront Numeral (lexeme ++ rest) lexeme →
      LongestFront Numeral (lexeme ++ (rest ++ after)) lexeme := by
    intro longest
    rw [← List.append_assoc]
    exact longest.append halts
  -- A numeral or a word does not go on with the text; all else ends with its first character.
  cases h with
  | symbol symbol => exact .symbol symbol _
  | number longest stands finite => exact .number (numeral longest) stands finite
  | outOfRange longest stands infinite => exact .outOfRange (numeral longest) stands infinite
  | lonePoint alone =>
    refine .lonePoint fun c later same => ?_
    cases rest with
    | nil => exact halts.noDigit c later same
    | cons d rest =>
      cases same
      exact alone c rest rfl
  | declareWord run same => exact .declareWord (run.append halts) same
  | quitWord run same => exact .quitWord (run.append halts) same
  | identifier run noDeclare noQuit => exact .identifier (run.append halts) noDeclare noQuit
  | badToken noBlank noSymbol noDigit noPoint noLetter =>
    exact .badToken noBlank noSymbol noDigit noPoint noLetter

/-- Blanks in front of a text are passed over. -/
theorem Segmented.blanks {dialect : Dialect} {blanks text : List Char}
    {lexemes : List (List Char × Except Fault Token)} (blank : ∀ c ∈ blanks, isWhitespace c)
    (h : Segmented dialect text lexemes) : Segmented dialect (blanks ++ text) lexemes := by
  induction blanks with
  | nil => exact h
  | cons c blanks ih =>
    obtain ⟨here, later⟩ := List.forall_mem_cons.mp blank
    exact (ih later).blank here

/-- Texts next to each other are cut into lexemes on their own, if the second one halts words and
numbers. -/
theorem Segmented.append {dialect : Dialect} {text after : List Char}
    {lexemes further : List (List Char × Except Fault Token)} (h : Segmented dialect text lexemes)
    (halts : Halts after) (g : Segmented dialect after further) :
    Segmented dialect (text ++ after) (lexemes ++ further) := by
  induction h with
  | done blank => exact g.blanks blank
  | @next blanks lexeme rest result more blank here _ ih =>
    have cut := Segmented.next blank (here.append halts) ih
    rwa [← List.append_assoc, ← List.append_assoc, List.append_assoc blanks] at cut

theorem Segmented.clean {dialect : Dialect} {text : List Char}
    {lexemes : List (List Char × Except Fault Token)} (h : Segmented dialect text lexemes) :
    Script.Clean (lexemes.map Prod.snd) := by
  induction h with
  | done => exact Script.clean_nil
  | next _ here _ ih =>
    refine List.forall_mem_cons.mpr ⟨fun fault same => ?_, ih⟩
    cases same
    exact here.recoverable

/-- Where the source does not fail, a session recovers from all that may be read. -/
theorem Tokenizer.Intact.clean {dialect : Dialect} {t : Tokenizer} (intact : t.Intact dialect)
    (normal : t.source.failure = none) : Script.Clean t.stream := by
  obtain ⟨lexemes, cut⟩ := exists_segmented intact.usable t.source.unread
  have listed {u : Tokenizer} (later : u.Intact dialect) (free : u.held = none)
      (same : u.source = t.source) : Script.Clean u.stream := by
    have list := later.stream_of_segmented cut free (by rw [same])
    rw [same, Source.ending_of_normal normal, List.append_nil] at list
    rw [list]
    exact cut.clean
  cases held : t.held with
  | none => exact listed intact held rfl
  | some token =>
    have bare : Intact dialect { t with held := none } :=
      ⟨intact.same, intact.usable, intact.source⟩
    rw [stream_of_held held]
    exact (listed bare rfl rfl).token token

theorem scriptOf_segmented {dialect : Dialect} (usable : dialect.Usable) {bytes : List UInt8}
    {lexemes : List (List Char × Except Fault Token)}
    (h : Segmented dialect (decodeLossy bytes) lexemes) :
    scriptOf dialect bytes = lexemes.map Prod.snd :=
  Tokenizer.stream_of_segmented usable h rfl rfl (Source.whole_ofBytes bytes) rfl
    (Source.unread_ofBytes bytes)

theorem scriptOf_clean {dialect : Dialect} (usable : dialect.Usable) (bytes : List UInt8) :
    Script.Clean (scriptOf dialect bytes) := by
  have intact : (Tokenizer.ofSource dialect (.ofBytes bytes none)).Intact dialect :=
    ⟨rfl, usable, Source.intact_ofBytes bytes none⟩
  exact intact.clean rfl

/-- The tokens of a text are the tokens of its parts, if the second part does not start in the
middle of a character, a word or a number. -/
theorem scriptOf_append {dialect : Dialect} (usable : dialect.Usable) {a b : List UInt8}
    (joined : decodeLossy (a ++ b) = decodeLossy a ++ decodeLossy b)
    (halts : Halts (decodeLossy b)) :
    scriptOf dialect (a ++ b) = scriptOf dialect a ++ scriptOf dialect b := by
  obtain ⟨first, cutFirst⟩ := exists_segmented usable (decodeLossy a)
  obtain ⟨second, cutSecond⟩ := exists_segmented usable (decodeLossy b)
  have cut := cutFirst.append halts cutSecond
  rw [← joined] at cut
  rw [scriptOf_segmented usable cut, scriptOf_segmented usable cutFirst,
    scriptOf_segmented usable cutSecond, List.map_append]

theorem decodeLossy_encodeChar (c : Char) (rest : List UInt8) :
    decodeLossy (String.utf8EncodeChar c ++ rest) = c :: decodeLossy rest :=
  decodeLossy_append_encodeChar [] c rest

/-- The tokens of texts joined by a separator are the tokens of both with a separator between. -/
theorem scriptOf_append_separator {dialect : Dialect} (usable : dialect.Usable)
    (a b : List UInt8) :
    scriptOf dialect (a ++ (String.utf8EncodeChar dialect.separator ++ b)) =
      scriptOf dialect a ++ Script.separator :: scriptOf dialect b := by
  have behind := decodeLossy_encodeChar dialect.separator b
  have joined := decodeLossy_append_encodeChar a dialect.separator b
  obtain ⟨lexemes, cut⟩ := exists_segmented usable (decodeLossy b)
  have closed : Segmented dialect ([] ++ ([dialect.separator] ++ decodeLossy b)) _ :=
    .next (List.forall_mem_nil _) (.symbol .separator _) cut
  have second : scriptOf dialect (String.utf8EncodeChar dialect.separator ++ b) =
      Script.separator :: scriptOf dialect b := by
    rw [scriptOf_segmented usable cut]
    exact scriptOf_segmented usable (by rw [behind]; exact closed)
  rw [← second]
  refine scriptOf_append usable (by rw [joined, behind]) ?_
  rw [behind]
  exact usable.halts _

theorem encodeUtf8_singleton (c : Char) :
    encodeUtf8 (String.singleton c) = String.utf8EncodeChar c := by
  simp [encodeUtf8]

theorem scriptOf_nil {dialect : Dialect} (usable : dialect.Usable) : scriptOf dialect [] = [] := by
  have blank : ∀ c ∈ decodeLossy [], isWhitespace c := by
    intro c hc
    cases hc
  exact scriptOf_segmented usable (.done blank)

theorem scriptOf_closed {dialect : Dialect} (usable : dialect.Usable) (a : List UInt8) :
    scriptOf dialect (a ++ encodeUtf8 (String.singleton dialect.separator)) =
      scriptOf dialect a ++ [Script.separator] := by
  have joined := scriptOf_append_separator usable a []
  rwa [List.append_nil, scriptOf_nil usable, ← encodeUtf8_singleton] at joined

end Calculator
