import Calculator.Proofs.Findings
import Calculator.Proofs.JoinedTexts

namespace Calculator

variable {dialect : Dialect} {text rest : List Char}

/-- The rest of a text from between two of its lexemes on: it is cut as it is cut there. -/
def Between (dialect : Dialect) (text rest : List Char) : Prop :=
  ∃ before, text = before ++ rest ∧ ∀ more, Segmented dialect rest more →
    ∃ front, Segmented dialect text (front ++ more)

namespace Between

theorem refl (dialect : Dialect) (text : List Char) : Between dialect text text :=
  ⟨[], rfl, fun _ cut => ⟨[], cut⟩⟩

theorem trans {inner : List Char} (first : Between dialect text rest)
    (second : Between dialect rest inner) : Between dialect text inner := by
  obtain ⟨before, rfl, outer⟩ := first
  obtain ⟨between, rfl, later⟩ := second
  refine ⟨before ++ between, (List.append_assoc _ _ _).symm, fun more cut => ?_⟩
  obtain ⟨front, cut⟩ := later more cut
  obtain ⟨earlier, cut⟩ := outer _ cut
  exact ⟨earlier ++ front, by rwa [List.append_assoc]⟩

theorem blanks {blanks : List Char} (blank : ∀ c ∈ blanks, isWhitespace c) (rest : List Char) :
    Between dialect (blanks ++ rest) rest :=
  ⟨blanks, rfl, fun _ cut => ⟨[], cut.blanks blank⟩⟩

theorem lexeme {lexeme : List Char} {result : Except Fault Token}
    (here : Lexeme dialect lexeme rest result) : Between dialect (lexeme ++ rest) rest :=
  ⟨lexeme, rfl, fun _ cut => ⟨[_], .next (List.forall_mem_nil _) here cut⟩⟩

theorem separator (usable : dialect.Usable) (front rest : List Char) :
    Between dialect (front ++ dialect.separator :: rest) rest := by
  refine ⟨front ++ [dialect.separator], by simp, fun more cut => ?_⟩
  obtain ⟨earlier, first⟩ := exists_segmented usable front
  have second : Segmented dialect ([] ++ ([dialect.separator] ++ rest)) _ :=
    .next (List.forall_mem_nil _) (.symbol .separator rest) cut
  exact ⟨earlier ++ [_], by simpa using first.append (usable.halts rest) second⟩

theorem ended (usable : dialect.Usable) (text : List Char) : Between dialect text [] := by
  refine ⟨text, (List.append_nil _).symm, fun more cut => ?_⟩
  obtain ⟨lexemes, whole⟩ := exists_segmented usable text
  obtain rfl := cut.eq_nil_of_blanks usable (List.forall_mem_nil _)
  exact ⟨lexemes, by rwa [List.append_nil]⟩

end Between

namespace Tokenizer

variable {t : Tokenizer}

/-- A tokenizer has read a text up to a place between two lexemes. What it was given back counts as
unread. -/
structure At (dialect : Dialect) (text : List Char) (t : Tokenizer) : Prop where
  intact : t.Intact dialect
  place : ∃ rest, t.ToRead rest ∧ Between dialect text rest

/-- A tokenizer is right behind a token of a text. -/
structure Behind (dialect : Dialect) (text : List Char) (token : Token) (t : Tokenizer) : Prop where
  intact : t.Intact dialect
  free : t.held = none
  place : ∃ lexeme, Lexeme dialect lexeme t.source.unread (.ok token) ∧
    Between dialect text (lexeme ++ t.source.unread)

theorem Behind.at {token : Token} (h : Behind dialect text token t) : At dialect text t := by
  obtain ⟨intact, free, lexeme, here, place⟩ := h
  exact ⟨intact, _, .source free, place.trans (.lexeme here)⟩

theorem At.of_intact (intact : t.Intact dialect) (read : t.ToRead text) : At dialect text t :=
  ⟨intact, text, read, .refl dialect text⟩

/-- Taking a token moves on to the end of the next lexeme. -/
theorem At.next (h : At dialect text t) :
    (∀ token, t.next.result = .ok token → Behind dialect text token t.next.tokens) ∧
      ∀ fault, t.next.result = .error fault → At dialect text t.next.tokens := by
  obtain ⟨intact, rest, read, place⟩ := h
  have later := intact.next
  have free := held_next t
  cases read with
  | @held token lexeme held here =>
    rw [intact.same] at here
    rw [next_of_held held] at later free ⊢
    refine ⟨fun other same => ?_, fun fault broken => by cases broken⟩
    cases same
    exact ⟨later, free, lexeme, here, place⟩
  | source empty =>
    obtain ⟨lexemes, cut⟩ := exists_segmented intact.usable t.source.unread
    generalize hu : t.source.unread = unread at cut place
    cases cut with
    | done blank =>
      rw [← hu] at blank
      obtain ⟨ended, used⟩ := next_of_blank empty blank
      refine ⟨fun token taken => (by cases ended.symm.trans taken), fun fault _ => ?_⟩
      exact ⟨later, [], used ▸ .source free, .ended intact.usable text⟩
    | @next blanks lexeme rest result more blank here further =>
      obtain ⟨source, run, left⟩ := intact.source.token_of_lexeme intact.usable blank here hu
      rw [← intact.same] at run
      obtain ⟨taken, same⟩ := next_of_token empty run
      have left : t.next.tokens.source.unread = rest := by rw [same, left]
      have front := place.trans (.blanks blank _)
      rw [← left] at here front
      rw [taken]
      constructor
      · rintro token rfl
        exact ⟨later, free, lexeme, here, front⟩
      · intro fault _
        exact ⟨later, _, .source free, front.trans (.lexeme here)⟩

/-- Reading moves from place to place of a text. -/
theorem course_at (dialect : Dialect) (text : List Char) :
    Course (fun _ t => At dialect text t) fun token _ t => Behind dialect text token t where
  next := At.next
  leave := Behind.at
  pushBack := by
    rintro token trace t ⟨intact, free, lexeme, here, place⟩
    rw [pushBack_of_free token free]
    refine ⟨⟨intact.same, intact.usable, intact.source⟩, lexeme ++ t.source.unread, ?_, place⟩
    rw [← intact.same] at here
    exact .held (t := { t with held := some token }) rfl here
  operand h := h
  declared h := h

theorem At.find (h : At dialect text t) (table : SymbolTable) :
    At dialect text (t.find table).tokens := by
  have course := course_at dialect text
  rcases find_cases table t with ⟨ending, found⟩ | found
  · rw [found]
    obtain ⟨taken, broken⟩ := @Course.firstToken _ _ course t [] h
    cases result : t.firstToken.result with
    | ok token => exact (taken token result).at
    | error fault => exact broken fault result
  · rw [found]
    exact @Course.statementAt _ _ course t [] table h

/-- Skipping leads behind a separator, or to the end. -/
theorem At.skip (h : At dialect text t) :
    At dialect text (t.discardThrough dialect.separator).tokens := by
  obtain ⟨intact, rest, read, place⟩ := h
  have later := intact.of_calm (calm_discardThrough dialect.separator t)
  obtain ⟨free, found, missing⟩ := intact.discardThrough
  refine ⟨later, _, .source free, ?_⟩
  by_cases listed : Script.separator ∈ t.stream
  · obtain ⟨front, rfl⟩ := (found listed).2.2 rest read
    exact place.trans (.separator intact.usable front _)
  · rw [(missing listed).1]
    exact .ended intact.usable text

theorem intact_ofBytes (accepted : dialect.check = .ok ()) (bytes : List UInt8)
    (failure : Option String) : (ofSource dialect (.ofBytes bytes failure)).Intact dialect :=
  ⟨rfl, Dialect.check_eq_ok.mp accepted, Source.intact_ofBytes bytes failure⟩

end Tokenizer

namespace Session

variable {s : Session}

/-- A session stands between two lexemes of a text. -/
def At (text : List Char) (s : Session) : Prop := s.tokens.At s.settings.dialect text

theorem At.tell {found : Found} (place : found.tokens.At s.settings.dialect text) :
    (s.tell found).session.At text := by
  unfold Session.tell
  split
  next => exact place
  next =>
    unfold recover
    dsimp only
    split
    next => exact place.skip
    next => exact place
  next => exact place
  next => exact place

theorem At.turn (h : s.At text) : s.turn.session.At text := by
  by_cases prompted : (s.out.write s.settings.prompt).complete = true
  · have place : (s.tokens.find s.table).tokens.At s.settings.dialect text :=
      Tokenizer.At.find h s.table
    rw [turn_eq_tell prompted]
    exact At.tell (s := s.prompted) place
  · rw [Session.turn, if_neg prompted]
    exact h

theorem Visits.at {after : Session} (visits : s.Visits after) (start : s.At text) :
    after.At text :=
  visits.keeps (fun _ _ h => h.turn) start

end Session

end Calculator
