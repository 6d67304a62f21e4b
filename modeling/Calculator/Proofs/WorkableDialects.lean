import Calculator.Proofs.SeparatorComposition
import Calculator.Proofs.WordTokens

namespace Calculator

/-- A word runs up to a character that no word goes on with. -/
theorem WordRun.of_isWord {word after : List Char} (stop : Char) (letters : isWord word)
    (stops : isAlphanumeric stop = false) : WordRun word (stop :: after) := by
  obtain ⟨first, more, same, letter, inner⟩ := exists_of_isWord letters
  refine ⟨first, more, same, letter, inner, fun c rest split => ?_⟩
  obtain ⟨rfl, _⟩ := List.cons.inj split
  exact stops

theorem encodeUtf8_append (a b : String) :
    encodeUtf8 (a ++ b) = encodeUtf8 a ++ encodeUtf8 b := by
  simp [encodeUtf8]

/-- Texts on both sides of the separator are tokenized on their own, with a separator between. -/
def Dialect.Separates (dialect : Dialect) : Prop := ∀ a b : String,
  scriptOf dialect (encodeUtf8 (a ++ String.singleton dialect.separator ++ b)) =
    scriptOf dialect (encodeUtf8 a) ++ [Script.separator] ++ scriptOf dialect (encodeUtf8 b)

/-- A tokenizer that reads all it has at once lists what it reads. -/
theorem Tokenizer.stream_of_last {t : Tokenizer} {result : Except Fault Token} {source : Source}
    (free : t.held = none) (normal : t.source.failure = none)
    (read : t.source.token t.dialect = Source.reading result source) (used : source.unread = [])
    (recoverable : Recoverable result) : t.stream = [result] := by
  obtain ⟨taken, behind⟩ := next_of_token free read
  have rest : t.next.tokens.stream = [] := by
    have blank : ∀ c ∈ t.next.tokens.source.unread, isWhitespace c := by
      rw [behind, used]
      exact List.forall_mem_nil _
    rw [stream_of_blank (held_next t) blank, (leads_next t).ending, Source.ending_of_normal normal]
  cases result with
  | ok token => rw [stream_of_ok taken, rest]
  | error fault => rw [stream_of_recoverable taken (recoverable fault rfl), rest]

section SingleToken

variable {dialect : Dialect} {text : String} {first c : Char} {more : List Char}

theorem unread_of_text (text : String) :
    (Source.ofBytes (encodeUtf8 text) none).unread = text.toList := by
  rw [Source.unread_ofBytes, decodeLossy_encodeUtf8]

theorem scriptOf_of_segmented (usable : dialect.Usable)
    {lexemes : List (List Char × Except Fault Token)}
    (cut : Segmented dialect text.toList lexemes) :
    scriptOf dialect (encodeUtf8 text) = lexemes.map Prod.snd :=
  Tokenizer.stream_of_segmented usable cut rfl rfl (Source.whole_ofBytes _) rfl
    (unread_of_text text)

/-- The token of a text that is read as a whole from its first character on. -/
theorem scriptOf_single {result : Except Fault Token} (letters : text.toList = c :: more)
    (dark : isWhitespace c = false) (recoverable : Recoverable result)
    (read : ∀ t : Source, t.Whole → t.failure = none → 0 < t.pos → t.line[t.pos - 1]? = some c →
      t.unread = more →
        ∃ u, Source.tokenFrom dialect c t = Source.reading result u ∧ u.unread = []) :
    scriptOf dialect (encodeUtf8 text) = [result] := by
  have hu : (Source.ofBytes (encodeUtf8 text) none).unread = [] ++ c :: more := by
    rw [unread_of_text, letters, List.nil_append]
  obtain ⟨t, run, left, leads, behind, value⟩ :=
    Source.token_of_blanks dialect (List.forall_mem_nil _) dark hu
  obtain ⟨u, found, used⟩ := read t ((Source.whole_ofBytes _).of_leads leads)
    (Source.normal_of_leads rfl leads) behind value left
  exact Tokenizer.stream_of_last rfl rfl (run.trans found) used recoverable

theorem scriptOf_blank (blank : ∀ d ∈ text.toList, isWhitespace d) :
    scriptOf dialect (encodeUtf8 text) = [] := by
  refine Tokenizer.stream_of_blank (t := .ofSource dialect _) rfl fun d hd => blank d ?_
  rw [← unread_of_text]
  exact hd

theorem scriptOf_symbol {symbol : Symbol} (letters : text.toList = [c])
    (dark : isWhitespace c = false) (writes : Symbol.ofChar? dialect.separator c = some symbol) :
    scriptOf dialect (encodeUtf8 text) = [.ok (.punct symbol)] := by
  refine scriptOf_single letters dark (recoverable_ok _) fun t _ _ _ _ left => ⟨t, ?_, left⟩
  simp only [Source.tokenFrom, writes]
  rfl

/-- A letter and characters that words go on with are one word, also where the dialect has another
use for these. -/
theorem scriptOf_word (letters : text.toList = c :: more) (letter : isAlphabetic c)
    (inner : ∀ d ∈ more, isAlphanumeric d)
    (noSymbol : Symbol.ofChar? dialect.separator c = none) :
    scriptOf dialect (encodeUtf8 text) = [.ok (dialect.word text)] := by
  have dark := isWhitespace_of_isAlphanumeric (isAlphanumeric_of_isAlphabetic letter)
  have same : String.ofList (c :: more) = text := by rw [← letters, String.ofList_toList]
  refine scriptOf_single letters dark (recoverable_ok _) fun t _ normal _ _ left => ?_
  have stop : ∀ d after, [] = d :: after → isAlphanumeric d = false := by
    intro d after h
    cases h
  obtain ⟨u, read, used⟩ := Source.tokenFrom_word noSymbol letter inner stop normal
    (by rw [left, List.append_nil])
  exact ⟨u, by rw [read, same]; rfl, used⟩

/-- A numeral is one token, a number or a fault. -/
theorem scriptOf_numeral (letters : text.toList = c :: more) (numeral : Numeral (c :: more))
    (noSymbol : Symbol.ofChar? dialect.separator c = none) :
    ∃ result, scriptOf dialect (encodeUtf8 text) = [result] ∧ result ≠ Script.separator := by
  have longest : LongestFront Numeral (c :: more ++ []) (c :: more) := by
    refine ⟨List.prefix_append _ _, numeral, fun other front _ => ?_⟩
    rw [List.append_nil] at front
    exact front.length_le
  obtain ⟨value, stands⟩ := numeral.exists_value
  obtain ⟨_, _, same, start⟩ := numeral.head
  obtain ⟨rfl, rfl⟩ := List.cons.inj same
  have dark : isWhitespace c = false := by
    rcases start with digit | rfl
    · exact isWhitespace_of_isAlphanumeric (isAlphanumeric_of_isDigit digit)
    · exact (classes_of_isReserved rfl).2
  obtain ⟨result, recoverable, other, reads⟩ : ∃ result : Except Fault Token,
      Recoverable result ∧ result ≠ Script.separator ∧ ∀ u : Source,
        (if isFiniteFloat value then .ok (.number value) u
          else .error (.lexical (.outOfRange (.ofList (c :: more)))) u) =
            Source.reading result u := by
    by_cases finite : isFiniteFloat value = true
    · exact ⟨.ok (.number value), recoverable_ok _, by simp, fun u => if_pos finite⟩
    · exact ⟨.error (.lexical (.outOfRange (.ofList (c :: more)))), recoverable_error rfl, by simp,
        fun u => if_neg finite⟩
  refine ⟨result, ?_, other⟩
  refine scriptOf_single letters dark recoverable fun t whole normal behind here left => ?_
  have leads := Source.leads_putBack behind here
  have back : (Source.putBack c t).unread = c :: more ++ [] := by
    rw [Source.unread_putBack_of_getElem? behind here, left, List.append_nil]
  obtain ⟨u, used, found⟩ := Source.tokenFrom_of_numeral noSymbol (whole.of_leads leads)
    (Source.normal_of_leads normal leads) back longest stands
  exact ⟨u, found.trans (reads u), used⟩

end SingleToken

namespace Dialect

variable {dialect : Dialect}

/-- The keywords of a usable dialect are read as what they are. -/
theorem Usable.scriptOf_keyword (usable : dialect.Usable) {word : String}
    (letters : isWord word.toList) :
    scriptOf dialect (encodeUtf8 word) = [.ok (dialect.word word)] := by
  obtain ⟨c, more, same, letter, inner⟩ := exists_of_isWord letters
  have noSymbol := usable.ofChar?_eq_none (Or.inl (isAlphanumeric_of_isAlphabetic letter))
  exact scriptOf_word same letter inner noSymbol

theorem Usable.separates (usable : dialect.Usable) : dialect.Separates := by
  intro a b
  have joined := scriptOf_append_separator usable (encodeUtf8 a) (encodeUtf8 b)
  rw [encodeUtf8_append, encodeUtf8_append, encodeUtf8_singleton, List.append_assoc, joined,
    List.append_assoc]
  rfl

namespace Separates

variable (separates : dialect.Separates)
include separates

theorem mem_separator (a : String) :
    Script.separator ∈ scriptOf dialect (encodeUtf8 (a ++ String.singleton dialect.separator)) := by
  have joined := separates a ""
  rw [String.append_empty] at joined
  rw [joined]
  simp

/-- What is read of a text with the separator at its end, if it is read at once, is the
separator. -/
theorem eq_separator {a : String} {result : Except Fault Token}
    (single : scriptOf dialect (encodeUtf8 (a ++ String.singleton dialect.separator)) = [result]) :
    result = Script.separator := by
  have listed := separates.mem_separator a
  rw [single] at listed
  exact (List.mem_singleton.mp listed).symm

theorem noBlank : isWhitespace dialect.separator = false := by
  cases blank : isWhitespace dialect.separator with
  | false => rfl
  | true =>
    have listed := separates.mem_separator ""
    rw [scriptOf_blank (by simpa using blank)] at listed
    cases listed

theorem noWord : isAlphanumeric dialect.separator = false := by
  cases inner : isAlphanumeric dialect.separator with
  | false => rfl
  | true =>
    -- One of two letters is not the separator, and makes a word with it.
    obtain ⟨first, letter, noSymbol⟩ : ∃ first, isAlphabetic first ∧
        Symbol.ofChar? dialect.separator first = none := by
      by_cases same : dialect.separator = 'a'
      · exact ⟨'b', rfl, by rw [same]; rfl⟩
      · exact ⟨'a', rfl, by simp [Symbol.ofChar?, Ne.symm same]⟩
    have letters : (String.singleton first ++ String.singleton dialect.separator).toList =
        [first, dialect.separator] := by simp
    have single := scriptOf_word letters letter (by simpa using inner) noSymbol
    have same := separates.eq_separator single
    exact absurd (Except.ok.inj same) (dialect.word_ne_punct _ _)

theorem ne_point : dialect.separator ≠ '.' := by
  intro point
  -- Behind a digit the point belongs to the number.
  have noSymbol : Symbol.ofChar? dialect.separator '1' = none := by rw [point]; rfl
  have letters : (String.singleton '1' ++ String.singleton dialect.separator).toList =
      ['1', '.'] := by simp [point]
  have numeral : Numeral ['1', '.'] :=
    ⟨['1'], ['.'], [], rfl, List.forall_mem_singleton.mpr rfl, .point (List.forall_mem_nil _),
      .absent, '1', List.mem_cons_self, rfl⟩
  obtain ⟨result, single, other⟩ := scriptOf_numeral letters numeral noSymbol
  exact other (separates.eq_separator single)

theorem noReserved : isReserved dialect.separator = false := by
  cases reserved : isReserved dialect.separator with
  | false => rfl
  | true =>
    obtain ⟨symbol, other, writes⟩ := exists_symbol_of_isReserved reserved separates.ne_point
    have letters : ("" ++ String.singleton dialect.separator).toList = [dialect.separator] := by
      simp
    have single := scriptOf_symbol letters separates.noBlank (writes dialect.separator)
    have same := separates.eq_separator single
    exact absurd (Token.punct.inj (Except.ok.inj same)) other

end Separates

end Dialect

/-- The check accepts exactly the dialects that work: a separator splits every text in two that are
tokenized on their own, and each keyword is read as what it is. -/
theorem check_accepts_workable_dialects (dialect : Dialect) : dialect.check = .ok () ↔
    dialect.Separates ∧
      scriptOf dialect (encodeUtf8 dialect.declareWord) = [.ok (.keyword .declare)] ∧
      scriptOf dialect (encodeUtf8 dialect.quitWord) = [.ok (.keyword .quit)] := by
  rw [Dialect.check_eq_ok]
  constructor
  · intro usable
    refine ⟨usable.separates, ?_, ?_⟩
    · rw [usable.scriptOf_keyword usable.declareWord, Dialect.word_eq_declare.mpr rfl]
    · rw [usable.scriptOf_keyword usable.quitWord,
        Dialect.word_eq_quit.mpr ⟨rfl, usable.apart.symm⟩]
  · rintro ⟨separates, declares, quits⟩
    have declared := (Tokenizer.next_of_stream_ok declares).1
    have ended := (Tokenizer.next_of_stream_ok quits).1
    obtain ⟨quitWord, apart⟩ := Tokenizer.quitWord_of_next rfl ended
    exact ⟨separates.noWord, separates.noBlank, separates.noReserved,
      Tokenizer.declareWord_of_next rfl declared, quitWord, apart⟩

end Calculator
