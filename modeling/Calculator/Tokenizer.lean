import Calculator.Event
import Calculator.Literal
import Calculator.Settings

namespace Calculator

/-- A reader of tokens with a slot for one token that was given back. -/
structure Tokenizer where
  dialect : Dialect
  source : Source
  held : Option Token

/-- What an operation on a tokenizer comes to: its result, the tokenizer it leaves, and an account
of what happened. -/
structure Step (α : Type) where
  result : Except Fault α
  tokens : Tokenizer
  trace : List Event

/-- The token that a word stands for. -/
def Dialect.word (dialect : Dialect) (word : String) : Token :=
  if word = dialect.declareWord then .keyword .declare
  else if word = dialect.quitWord then .keyword .quit
  else .identifier word

namespace Source

/-- Takes the token that starts with a character just taken. -/
def tokenFrom (dialect : Dialect) (c : Char) : Scan Token := do
  match Symbol.ofChar? dialect.separator c with
  | some symbol => return .punct symbol
  | none =>
    if c.isDigit ∨ c = '.' then
      modify (putBack c)
      return .number (← number)
    else if isAlphabetic c then
      let more ← takeWhile isAlphanumeric
      return dialect.word (.ofList (c :: more))
    else throw (.lexical (.badToken c))

/-- Takes the next token. -/
def token (dialect : Dialect) : Scan Token := do
  match ← nextNonBlank with
  | none => throw .endOfInput
  | some c => tokenFrom dialect c

/-- A token takes at least its first character. -/
theorem token_ok {dialect : Dialect} {s s' : Source} {token : Token}
    (h : Source.token dialect s = .ok token s') : s'.unread.length < s.unread.length := by
  obtain ⟨c, s₁, hc, h⟩ := Scan.bind_eq_ok.mp h
  cases c with
  | none => cases h
  | some c =>
    obtain ⟨less, behind, value, _⟩ := nextNonBlank_some hc
    simp only [tokenFrom] at h
    cases hs : Symbol.ofChar? dialect.separator c with
    | some symbol => rw [hs] at h; cases h; exact less
    | none =>
      simp only [hs] at h
      split at h
      next =>
        obtain ⟨_, _, hm, h⟩ := Scan.bind_eq_ok.mp h
        cases hm
        obtain ⟨x, rest, hn, h⟩ := Scan.bind_eq_ok.mp h
        cases h
        have more := number_ok hn
        rw [unread_putBack_of_getElem? behind value, List.length_cons] at more
        omega
      next =>
        split at h
        next =>
          obtain ⟨more, rest, hw, h⟩ := Scan.bind_eq_ok.mp h
          cases h
          have whole := congrArg List.length (takeWhile_ok hw).1
          rw [List.length_append] at whole
          omega
        next => cases h

/-- A text that is no token is at least one character long. -/
theorem token_error {dialect : Dialect} {s s' : Source} {fault : Fault}
    (h : Source.token dialect s = .error fault s') (recoverable : fault.recoverable = true) :
    s'.unread.length < s.unread.length := by
  rcases Scan.bind_eq_error.mp h with hc | ⟨c, s₁, hc, h⟩
  · rw [nextNonBlank_error hc] at recoverable
    cases recoverable
  cases c with
  | none => cases h; cases recoverable
  | some c =>
    obtain ⟨less, behind, value, _⟩ := nextNonBlank_some hc
    simp only [tokenFrom] at h
    cases hs : Symbol.ofChar? dialect.separator c with
    | some symbol => rw [hs] at h; cases h
    | none =>
      simp only [hs] at h
      split at h
      next start =>
        obtain ⟨_, _, hm, h⟩ := (Scan.bind_eq_error.mp h).resolve_left (by rintro ⟨⟩)
        cases hm
        rcases Scan.bind_eq_error.mp h with hn | ⟨_, _, _, h⟩
        · have front := unread_putBack_of_getElem? behind value
          have more := number_error hn recoverable front start
          rw [front, List.length_cons] at more
          omega
        · cases h
      next =>
        split at h
        next =>
          rcases Scan.bind_eq_error.mp h with hw | ⟨_, _, _, h⟩
          · rw [(takeWhile_error hw).1] at recoverable
            cases recoverable
          · cases h
        next => cases h; exact less

end Source

namespace Tokenizer

/-- A tokenizer at the start of a source. -/
def ofSource (dialect : Dialect) (source : Source) : Tokenizer := ⟨dialect, source, none⟩

/-- How much there is still to take: the characters to come, and one for the token in the slot. -/
def size (t : Tokenizer) : Nat :=
  t.source.unread.length + if t.held.isSome then 1 else 0

/-- Takes the next token, the one in the slot first. -/
def next (t : Tokenizer) : Step Token :=
  match t.held with
  | some token => ⟨.ok token, { t with held := none }, [.tokenAgain token]⟩
  | none =>
    match t.source.token t.dialect with
    | .ok token source => ⟨.ok token, { t with source }, [.token token]⟩
    | .error fault source => ⟨.error fault, { t with source }, []⟩

/-- Puts a token into the slot, which has to be free. -/
def pushBack (token : Token) (t : Tokenizer) : Step Unit :=
  if t.held.isSome then ⟨.error (.internal .slotTaken), t, []⟩
  else ⟨.ok (), { t with held := some token }, [.pushedBack token]⟩

/-- Whether the slot holds a symbol that a character writes. -/
def holds (t : Tokenizer) (c : Char) : Bool :=
  match t.held with
  | some (.punct symbol) => symbol.toChar t.dialect.separator = c
  | _ => false

/-- Skips everything up to and including the next `target`, or to the end of input. The slot is
emptied, and that is all when it holds the target. -/
def discardThrough (target : Char) (t : Tokenizer) : Step Unit :=
  if t.holds target then ⟨.ok (), { t with held := none }, [.skippedHeld target]⟩
  else
    match t.source.skipThrough target 0 with
    | .ok (found, count) source =>
      ⟨.ok (), { t with source, held := none },
        [if found then .skipped target count else .skippedToEnd count]⟩
    | .error fault source => ⟨.error fault, { t with source, held := none }, []⟩

end Tokenizer

end Calculator
