import Calculator.Proofs.SessionOfTokens
import Calculator.Proofs.WatchedScan

namespace Calculator

/-- A use that is made of a source. Between two operations on it, what it has still to fetch may
change, as behind an error that passes. -/
inductive Use where
  | peek
  | next
  | nextNonBlank
  | putBack (c : Char)
  | number
  | supply (pending : List (Array Char)) (failure : Option String)

namespace Use

def Answer : Use → Type
  | .peek | .next | .nextNonBlank => Option Char
  | .putBack _ | .supply _ _ => PUnit
  | .number => Float

def plain : (use : Use) → Scan use.Answer
  | .peek => Source.peek
  | .next => Source.next
  | .nextNonBlank => Source.nextNonBlank
  | .putBack c => modify (Source.putBack c)
  | .number => Source.number
  | .supply pending failure => modify fun s => { s with pending, failure }

def watched : (use : Use) → Watched use.Answer
  | .peek => Watched.peek
  | .next => Watched.next
  | .nextNonBlank => Watched.nextNonBlank
  | .putBack c => Watched.putBack c
  | .number => Watched.number
  | .supply pending failure => modify fun s => { s with pending, failure }

/-- No use of a source leaves the line, if the position was inside. -/
theorem staysInside (use : Use) {s : Source} (inside : s.Inside) :
    s.StaysInside use.watched use.plain := by
  cases use with
  | peek => exact Source.staysInside_peek inside
  | next => exact Source.staysInside_next inside
  | nextNonBlank => exact Source.staysInside_nextNonBlank inside
  | putBack c => exact Source.staysInside_putBack inside c
  | number => exact Source.staysInside_number inside
  | supply pending failure => exact ⟨rfl, inside⟩

end Use

theorem watch_ne_outside {α : Type} (result : EStateM.Result Fault Source α) (t : Source) :
    watch result ≠ .error .outside t := by
  cases result with
  | ok a u => nofun
  | error fault u => nofun

namespace Source

variable {s t : Source}

/-- The source after a use, also where it fails. -/
def use (s : Source) (use : Use) : Source := leftBy (use.plain s)

theorem inside_uses (inside : s.Inside) (uses : List Use) : (uses.foldl use s).Inside := by
  induction uses generalizing s with
  | nil => exact inside
  | cons first rest ih => exact ih (first.staysInside inside).inside

/-- The line is one of some lines, as it was fetched, with those behind it still to be fetched; or
none was fetched yet. -/
def HoldsFetched (lines : List (Array Char)) (s : Source) : Prop :=
  (s.line = #[] ∧ s.pending = lines) ∨ ∃ before, lines = before ++ s.line :: s.pending

theorem holdsFetched_of_leads (fresh : s.line = #[]) (leads : s.Leads t) :
    t.HoldsFetched s.pending := by
  rcases List.suffix_cons_iff.mp leads.lines with same | ⟨before, same⟩
  · obtain ⟨line, pending⟩ := List.cons.inj same
    exact Or.inl ⟨line.trans fresh, pending⟩
  · exact Or.inr ⟨before, same.symm⟩

end Source

/-- A call of a tokenizer. -/
inductive TokenUse where
  | next
  | pushBack (token : Token)
  | discardThrough (target : Char)

namespace Tokenizer

variable {t : Tokenizer}

/-- The tokenizer after a call, also where it fails. -/
def use (t : Tokenizer) : TokenUse → Tokenizer
  | .next => t.next.tokens
  | .pushBack token => (t.pushBack token).tokens
  | .discardThrough target => (t.discardThrough target).tokens

theorem leads_use (t : Tokenizer) (use : TokenUse) : t.source.Leads (t.use use).source := by
  cases use with
  | next => exact (calm_next t).2.1
  | pushBack token => exact (calm_pushBack token t).2.1
  | discardThrough target => exact (calm_discardThrough target t).2.1

theorem inside_next (inside : t.source.Inside) : t.next.tokens.source.Inside := by
  unfold next
  split
  next => exact inside
  next =>
    have stays := (Source.staysInside_token inside t.dialect).inside
    split
    next taken =>
      rw [taken] at stays
      exact stays
    next broken =>
      rw [broken] at stays
      exact stays

theorem inside_discardThrough (inside : t.source.Inside) (target : Char) :
    (t.discardThrough target).tokens.source.Inside := by
  unfold discardThrough
  split
  next => exact inside
  next =>
    have stays := (Source.staysInside_skipThrough inside target 0).inside
    split
    next skipped =>
      rw [skipped] at stays
      exact stays
    next broken =>
      rw [broken] at stays
      exact stays

theorem inside_use (inside : t.source.Inside) (use : TokenUse) : (t.use use).source.Inside := by
  cases use with
  | next => exact inside_next inside
  | pushBack token =>
    dsimp only [Tokenizer.use]
    unfold pushBack
    split
    next => exact inside
    next => exact inside
  | discardThrough target => exact inside_discardThrough inside target

/-- Calls in a row leave the position inside, and drop whole lines at most. -/
theorem uses_stay (inside : t.source.Inside) (uses : List TokenUse) :
    t.source.Leads (uses.foldl use t).source ∧ (uses.foldl use t).source.Inside := by
  induction uses generalizing t with
  | nil => exact ⟨Source.Leads.refl _, inside⟩
  | cons first rest ih =>
    obtain ⟨leads, stays⟩ := ih (inside_use inside first)
    exact ⟨(leads_use t first).trans leads, stays⟩

end Tokenizer

/-- No character of a line is looked up, and none inserted, at a place that the line does not have,
in whatever order a source is used; and a tokenizer, whatever it was called for, always gives back
a character that it has just taken, so that its line stays as it was fetched. -/
theorem places_stay_inside_line (bytes : List UInt8) (failure : Option String) :
    (∀ uses : List Use,
      let s := uses.foldl Source.use (.ofBytes bytes failure)
      s.pos ≤ s.line.size ∧ ∀ use : Use, use.watched s = watch (use.plain s) ∧
        ∀ t, use.watched s ≠ .error .outside t) ∧
    ∀ (dialect : Dialect) (uses : List TokenUse),
      let lines := (Source.ofBytes bytes failure).pending
      let s := (uses.foldl Tokenizer.use (.ofSource dialect (.ofBytes bytes failure))).source
      s.pos ≤ s.line.size ∧ s.HoldsFetched lines ∧
        Watched.token dialect s = watch (s.token dialect) ∧
        ∀ c t, s.nextNonBlank = .ok (some c) t →
          0 < t.pos ∧ t.line[t.pos - 1]? = some c ∧ t.putBack c = { t with pos := t.pos - 1 } ∧
            t.HoldsFetched lines := by
  have start : (Source.ofBytes bytes failure).Inside := Nat.zero_le _
  constructor
  · intro uses s
    have inside := Source.inside_uses start uses
    refine ⟨inside, fun use => ?_⟩
    have same := (use.staysInside inside).same
    exact ⟨same, fun t => same ▸ watch_ne_outside _ t⟩
  · intro dialect uses lines s
    obtain ⟨leads, inside⟩ :=
      Tokenizer.uses_stay (t := .ofSource dialect (.ofBytes bytes failure)) start uses
    refine ⟨inside, Source.holdsFetched_of_leads rfl leads,
      (Source.staysInside_token inside dialect).same, fun c t taken => ?_⟩
    obtain ⟨_, behind, value, _⟩ := Source.nextNonBlank_some taken
    have further := leads.trans ((Source.reaches_nextNonBlank s).leads taken)
    exact ⟨behind, value, if_pos ⟨behind, value⟩, Source.holdsFetched_of_leads rfl further⟩

/-- The digit behind the blank is given back by a step back; and a failure, met behind a character
that never was in the text, leaves the position inside. -/
theorem places_stay_inside_line_foreign :
    (∀ (use : Use) (t : Source), use.watched ([Use.next, .putBack 'x', .number, .peek].foldl
      Source.use (.ofBytes (encodeUtf8 " 7\n") (some "broken"))) ≠ .error .outside t) ∧
    ∃ t, (Source.ofBytes (encodeUtf8 " 7\n") none).nextNonBlank = .ok (some '7') t ∧ 0 < t.pos ∧
      t.putBack '7' = { t with pos := t.pos - 1 } := by
  have unread : (Source.ofBytes (encodeUtf8 " 7\n") none).unread = [' '] ++ '7' :: ['\n'] := by
    rw [Source.unread_ofBytes, decodeLossy_encodeUtf8]
    rfl
  obtain ⟨t, taken, _⟩ := Source.nextNonBlank_of_blanks
    (List.forall_mem_singleton.mpr rfl) (by decide) unread
  obtain ⟨_, _, _, gives⟩ := (places_stay_inside_line (encodeUtf8 " 7\n") none).2 {} []
  obtain ⟨behind, _, back, _⟩ := gives '7' t taken
  refine ⟨fun use => ?_, t, taken, behind, back⟩
  exact (((places_stay_inside_line _ _).1 _).2 use).2

end Calculator
