import Calculator.Proofs.Lexeme
import Calculator.Proofs.LineDecoding
import Mathlib.Data.List.DropRight

namespace Calculator

variable {α β : Type}

/-- The fault in the place of one that only the end of a source has, if fetching fails there. -/
def Fault.orDevice (text : String) (fault : Fault) : Fault :=
  if fault = .endOfInput then .device text else fault

theorem Fault.orDevice_of_ne {text : String} {fault : Fault} (other : fault ≠ .endOfInput) :
    fault.orDevice text = fault := if_neg other

theorem Fault.orDevice_of_recoverable {text : String} {fault : Fault}
    (recoverable : fault.recoverable = true) : fault.orDevice text = fault := by
  refine orDevice_of_ne ?_
  rintro rfl
  cases recoverable

namespace Source

variable {s t : Source} {text : String}

/-- The source with a failure where it ends. -/
def failing (text : String) (s : Source) : Source := { s with failure := some text }

theorem fill_failing (text : String) (s : Source) :
    (s.failing text).fill = s.fill.failing text := by
  unfold fill failing
  dsimp only
  split
  next => rfl
  next => split <;> rfl

theorem putBack_failing (text : String) (c : Char) (s : Source) :
    putBack c (s.failing text) = (putBack c s).failing text := by
  unfold putBack failing
  dsimp only
  split <;> rfl

/-- A result with a failure where its source ends. -/
def failingResult (text : String) :
    EStateM.Result Fault Source α → EStateM.Result Fault Source α
  | .ok a t => .ok a (t.failing text)
  | .error fault t => .error (fault.orDevice text) (t.failing text)

/-- An operation inside a line: a failure behind the line changes nothing, the newline is left to be
read, and only a text that is no token breaks it off. -/
structure Steady (text : String) (s : Source) (x : Scan α) : Prop where
  same : x (s.failing text) = failingResult text (x s)
  ahead : ∀ a t, x s = .ok a t → '\n' ∈ t.unread
  broken : ∀ fault t, x s = .error fault t → fault.recoverable = true

theorem same_bind {x : Scan α} {f : α → Scan β}
    (first : x (s.failing text) = failingResult text (x s))
    (second : ∀ a t, x s = .ok a t → f a (t.failing text) = failingResult text (f a t)) :
    (x >>= f) (s.failing text) = failingResult text ((x >>= f) s) := by
  simp only [bind, EStateM.bind]
  rw [first]
  cases run : x s with
  | ok a t => exact second a t run
  | error fault t => rfl

theorem steady_bind {x : Scan α} {f : α → Scan β} (first : Steady text s x)
    (second : ∀ a t, x s = .ok a t → '\n' ∈ t.unread → Steady text t (f a)) :
    Steady text s (x >>= f) := by
  have next (a : α) (t : Source) (run : x s = .ok a t) : Steady text t (f a) :=
    second a t run (first.ahead a t run)
  refine ⟨same_bind first.same fun a t run => (next a t run).same, fun b u run => ?_,
    fun fault u run => ?_⟩
  · obtain ⟨a, t, early, late⟩ := Scan.bind_eq_ok.mp run
    exact (next a t early).ahead b u late
  · rcases Scan.bind_eq_error.mp run with early | ⟨a, t, early, late⟩
    · exact first.broken fault u early
    · exact (next a t early).broken fault u late

theorem steady_of_ok {x : Scan α} {a : α} (run : x s = .ok a t)
    (runToo : x (s.failing text) = .ok a (t.failing text)) (ahead : '\n' ∈ t.unread) :
    Steady text s x := by
  refine ⟨?_, fun b u again => ?_, fun fault u again => ?_⟩
  · rw [run, runToo]
    rfl
  · cases run.symm.trans again
    exact ahead
  · cases run.symm.trans again

theorem steady_pure (a : α) (ahead : '\n' ∈ s.unread) : Steady text s (pure a : Scan α) :=
  steady_of_ok rfl rfl ahead

theorem steady_throw {fault : Fault} (recoverable : fault.recoverable = true) :
    Steady text s (throw fault : Scan α) := by
  have same : fault.orDevice text = fault := Fault.orDevice_of_recoverable recoverable
  refine ⟨congrArg (EStateM.Result.error · _) same.symm, fun b t run => (by cases run), ?_⟩
  intro other t run
  cases run
  exact recoverable

theorem steady_ite {p : Prop} [Decidable p] {x y : Scan α} (hx : p → Steady text s x)
    (hy : ¬p → Steady text s y) : Steady text s (if p then x else y) := by
  by_cases h : p
  · rw [if_pos h]
    exact hx h
  · rw [if_neg h]
    exact hy h

theorem steady_advance {n : Nat} (ahead : '\n' ∈ (s.advance n).unread) :
    Steady text s (modify (advance n)) := steady_of_ok rfl rfl ahead

theorem peek_failing {c : Char} {rest : List Char} (front : s.unread = c :: rest)
    (text : String) : peek (s.failing text) = .ok (some c) (s.fill.failing text) := by
  rw [peek_of_unread_cons (s := s.failing text) front, fill_failing]

theorem steady_peek (ahead : '\n' ∈ s.unread) : Steady text s peek := by
  obtain ⟨c, rest, front⟩ := List.exists_cons_of_ne_nil (List.ne_nil_of_mem ahead)
  refine steady_of_ok (peek_of_unread_cons front) (peek_failing front text) ?_
  rw [unread_fill]
  exact ahead

theorem takeWhile_of_peek {test : Char → Bool} {c : Char} (seen : peek s = .ok (some c) t) :
    takeWhile test s = if test c then
      match takeWhile test (t.advance 1) with
      | .ok taken rest => .ok (c :: taken) rest
      | .error fault rest => .error fault rest
    else .ok [] t := by
  rw [takeWhile]
  split
  next d here again =>
    cases seen.symm.trans again
    rfl
  next here again => cases seen.symm.trans again
  next fault here again => cases seen.symm.trans again

theorem takeWhile_failing {test : Char → Bool} (stops : test '\n' = false) (text : String)
    {s : Source} (ahead : '\n' ∈ s.unread) : ∃ taken t, takeWhile test s = .ok taken t ∧
      takeWhile test (s.failing text) = .ok taken (t.failing text) ∧ '\n' ∈ t.unread := by
  obtain ⟨c, rest, front⟩ := List.exists_cons_of_ne_nil (List.ne_nil_of_mem ahead)
  have seen := peek_of_unread_cons front
  rw [takeWhile_of_peek seen, takeWhile_of_peek (peek_failing front text)]
  by_cases pass : test c
  · have left := unread_of_peek seen
    have more : '\n' ∈ (s.fill.advance 1).unread := by
      rw [left] at ahead
      refine (List.mem_cons.mp ahead).resolve_left fun same => ?_
      rw [← same, stops] at pass
      cases pass
    have less : (s.fill.advance 1).unread.length < s.unread.length := by simp [left]
    obtain ⟨taken, t, run, runToo, last⟩ := takeWhile_failing stops text more
    have behind : (s.fill.failing text).advance 1 = (s.fill.advance 1).failing text := rfl
    rw [if_pos pass, if_pos pass, behind, run, runToo]
    exact ⟨_, t, rfl, rfl, last⟩
  · rw [if_neg pass, if_neg pass]
    exact ⟨[], _, rfl, rfl, by rwa [unread_fill]⟩
termination_by s.unread.length

theorem steady_takeWhile {test : Char → Bool} (stops : test '\n' = false)
    (ahead : '\n' ∈ s.unread) : Steady text s (takeWhile test) := by
  obtain ⟨taken, t, run, runToo, last⟩ := takeWhile_failing stops text ahead
  exact steady_of_ok run runToo last

theorem steady_fractionPart (ahead : '\n' ∈ s.unread) : Steady text s fractionPart := by
  refine steady_bind (steady_peek ahead) fun c t seen ahead => ?_
  refine steady_ite (fun point => ?_) fun _ => steady_pure _ ahead
  subst point
  have front := unread_of_getElem? (getElem?_of_peek seen)
  rw [front] at ahead
  have left := (List.mem_cons.mp ahead).resolve_left (by decide)
  refine steady_bind (steady_advance left) fun _ u _ ahead => ?_
  exact steady_bind (steady_takeWhile rfl ahead) fun digits v _ ahead => steady_pure _ ahead

/-- The sign of an exponent stands behind its marker. -/
theorem unread_lead {marker : Char} (here : s.line[s.pos]? = some marker) (test : Char → Bool) :
    s.unread = (marker :: ((s.ahead 1).filter test).toList) ++
      (s.advance (marker :: ((s.ahead 1).filter test).toList).length).unread := by
  rw [unread_of_getElem? here]
  cases sign : (s.ahead 1).filter test with
  | none => rfl
  | some c =>
    have one := (Option.filter_eq_some_iff.mp sign).1
    have behind : (s.advance 1).unread = c :: ((s.advance 1).advance 1).unread :=
      unread_of_getElem? one
    rw [behind]
    rfl

theorem steady_exponentPart (ahead : '\n' ∈ s.unread) : Steady text s exponentPart := by
  refine steady_bind (steady_peek ahead) fun c t seen ahead => ?_
  cases c with
  | none => exact steady_pure _ ahead
  | some marker =>
    -- What is looked at further ahead is in the present line, whatever the source ends with.
    have inner : Steady text t
        (let lead := marker :: ((t.ahead 1).filter fun c => c = '+' ∨ c = '-').toList
        if (marker = 'e' ∨ marker = 'E') ∧ (t.ahead lead.length).any Char.isDigit then do
          modify (advance lead.length)
          let digits ← takeWhile Char.isDigit
          return lead ++ digits
        else return []) := by
      refine steady_ite (fun whole => ?_) fun _ => steady_pure _ ahead
      have front := unread_lead (getElem?_of_peek seen) fun c => c = '+' ∨ c = '-'
      have noMarker : '\n' ≠ marker := by
        rintro rfl
        exact absurd whole.1 (by decide)
      have noSign : '\n' ∉ ((t.ahead 1).filter fun c => c = '+' ∨ c = '-').toList := by
        intro signed
        have passed := (Option.filter_eq_some_iff.mp (Option.mem_toList.mp signed)).2
        exact absurd passed (by decide)
      rw [front] at ahead
      have left := (List.mem_append.mp ahead).resolve_left fun listed =>
        (List.mem_cons.mp listed).elim noMarker noSign
      refine steady_bind (steady_advance left) fun _ u _ ahead => ?_
      exact steady_bind (steady_takeWhile rfl ahead) fun digits v _ ahead => steady_pure _ ahead
    exact ⟨inner.same, inner.ahead, inner.broken⟩

theorem steady_literal (ahead : '\n' ∈ s.unread) : Steady text s literal := by
  refine steady_bind (steady_takeWhile rfl ahead) fun whole t _ ahead => ?_
  refine steady_bind (steady_fractionPart ahead) fun fraction u _ ahead => ?_
  refine steady_ite (fun _ => ?_) fun _ => steady_throw rfl
  exact steady_bind (steady_exponentPart ahead) fun exponent v _ ahead => steady_pure _ ahead

theorem steady_number (ahead : '\n' ∈ s.unread) : Steady text s number := by
  refine steady_bind (steady_literal ahead) fun taken t _ ahead => ?_
  cases literalValue taken with
  | ok value => exact steady_pure _ ahead
  | error cause => exact steady_throw rfl

/-- A source of which every line that holds anything ends with its newline. -/
def Lined (s : Source) : Prop :=
  ∀ line ∈ s.line :: s.pending, line = #[] ∨ line.back? = some '\n'

theorem Lined.of_leads (lined : s.Lined) (leads : s.Leads t) : t.Lined :=
  fun line listed => lined line (leads.lines.subset listed)

/-- Behind a character that is no newline there is the rest of a line. -/
theorem Lined.ahead (lined : s.Lined) {c : Char} (behind : 0 < s.pos)
    (value : s.line[s.pos - 1]? = some c) (other : c ≠ '\n') : '\n' ∈ s.unread := by
  obtain ⟨bound, _⟩ := Array.getElem?_eq_some_iff.mp value
  have last : s.line[s.line.size - 1]? = some '\n' := by
    rw [← Array.back?_eq_getElem?]
    refine (lined s.line List.mem_cons_self).resolve_left fun empty => ?_
    rw [empty] at bound
    simp at bound
  have apart : s.pos - 1 ≠ s.line.size - 1 := by
    intro same
    rw [same, last] at value
    exact other (Option.some.inj value).symm
  have inside : s.pos + (s.line.size - 1 - s.pos) = s.line.size - 1 := by omega
  refine List.mem_append_left _ (List.mem_iff_getElem?.mpr ⟨s.line.size - 1 - s.pos, ?_⟩)
  rw [List.getElem?_drop, inside, Array.getElem?_toList]
  exact last

theorem next_failing {c : Char} {rest : List Char} (front : s.unread = c :: rest)
    (text : String) : next s = .ok (some c) (s.fill.advance 1) ∧
      next (s.failing text) = .ok (some c) ((s.fill.advance 1).failing text) :=
  ⟨next_of_peek (peek_of_unread_cons front), next_of_peek (peek_failing front text)⟩

/-- Skipping blanks meets the failure exactly where it would meet the end. -/
theorem nextNonBlank_failing {s : Source} (normal : s.failure = none) (text : String) :
    (∃ c t, nextNonBlank s = .ok (some c) t ∧
      nextNonBlank (s.failing text) = .ok (some c) (t.failing text)) ∨
    ∃ t, nextNonBlank s = .ok none t ∧
      nextNonBlank (s.failing text) = .error (.device text) (t.failing text) ∧
      ∀ c ∈ s.unread, isWhitespace c := by
  cases front : s.unread with
  | nil =>
    have ended := nextNonBlank_of_unread_nil front
    have failed := nextNonBlank_of_unread_nil (s := s.failing text) front
    rw [normal] at ended
    rw [fill_failing] at failed
    exact Or.inr ⟨s.fill, ended, failed, List.forall_mem_nil _⟩
  | cons c rest =>
    obtain ⟨taken, takenToo⟩ := next_failing front text
    have left := unread_of_next taken
    rw [nextNonBlank_of_next taken, nextNonBlank_of_next takenToo]
    by_cases blank : isWhitespace c
    · have less : (s.fill.advance 1).unread.length < s.unread.length := by simp [left]
      have kept : (s.fill.advance 1).failure = none := (failure_fill s).trans normal
      rw [if_pos blank, if_pos blank]
      rcases nextNonBlank_failing kept text with found | ⟨t, ended, failed, blanks⟩
      · exact Or.inl found
      · refine Or.inr ⟨t, ended, failed, ?_⟩
        rw [front] at left
        rw [(List.cons.inj left).2]
        exact List.forall_mem_cons.mpr ⟨blank, blanks⟩
    · rw [if_neg blank, if_neg blank]
      exact Or.inl ⟨c, _, rfl, rfl⟩
termination_by s.unread.length

theorem skipThrough_of_unread_nil {target : Char} {skipped : Nat} (h : s.unread = []) :
    skipThrough target skipped s = match s.failure with
      | none => .ok (false, skipped) s.fill
      | some text => .error (.device text) s.fill := by
  have ended := next_of_unread_nil h
  rw [skipThrough]
  cases failure : s.failure with
  | none =>
    rw [failure] at ended
    split
    next taken => cases ended.symm.trans taken
    next taken =>
      cases ended.symm.trans taken
      rfl
    next taken => cases ended.symm.trans taken
  | some text =>
    rw [failure] at ended
    split
    next taken => cases ended.symm.trans taken
    next taken => cases ended.symm.trans taken
    next taken =>
      cases ended.symm.trans taken
      rfl

/-- Skipping to a target meets the failure exactly where it would meet the end. -/
theorem skipThrough_failing {s : Source} (normal : s.failure = none) (text : String)
    (target : Char) (skipped : Nat) :
    (∃ count t, skipThrough target skipped s = .ok (true, count) t ∧
      skipThrough target skipped (s.failing text) = .ok (true, count) (t.failing text)) ∨
    ∃ count t, skipThrough target skipped s = .ok (false, count) t ∧ t.unread = [] ∧
      skipThrough target skipped (s.failing text) = .error (.device text) (t.failing text) := by
  cases front : s.unread with
  | nil =>
    have ended : skipThrough target skipped s = _ := skipThrough_of_unread_nil front
    have failed : skipThrough target skipped (s.failing text) = _ :=
      skipThrough_of_unread_nil front
    rw [normal] at ended
    rw [fill_failing] at failed
    exact Or.inr ⟨skipped, s.fill, ended, (unread_fill s).trans front, failed⟩
  | cons c rest =>
    obtain ⟨taken, takenToo⟩ := next_failing front text
    have left := unread_of_next taken
    rw [skipThrough_of_next taken, skipThrough_of_next takenToo]
    by_cases met : c = target
    · rw [if_pos met, if_pos met]
      exact Or.inl ⟨skipped, _, rfl, rfl⟩
    · have less : (s.fill.advance 1).unread.length < s.unread.length := by simp [left]
      have kept : (s.fill.advance 1).failure = none := (failure_fill s).trans normal
      rw [if_neg met, if_neg met]
      exact skipThrough_failing kept text target (skipped + 1)
termination_by s.unread.length

theorem steady_tokenFrom (dialect : Dialect) {c : Char} (behind : 0 < s.pos)
    (value : s.line[s.pos - 1]? = some c) (ahead : '\n' ∈ s.unread) :
    Steady text s (tokenFrom dialect c) := by
  simp only [tokenFrom]
  cases Symbol.ofChar? dialect.separator c with
  | some symbol => exact steady_pure _ ahead
  | none =>
    refine steady_ite (fun _ => ?_) fun _ => steady_ite (fun _ => ?_) fun _ => steady_throw rfl
    · have back : Steady text s (modify (putBack c)) := by
        refine steady_of_ok rfl (congrArg (EStateM.Result.ok _) (putBack_failing text c s)) ?_
        rw [unread_putBack_of_getElem? behind value]
        exact List.mem_cons_of_mem _ ahead
      refine steady_bind back fun _ t _ ahead => ?_
      exact steady_bind (steady_number ahead) fun number u _ ahead => steady_pure _ ahead
    · exact steady_bind (steady_takeWhile rfl ahead) fun more t _ ahead => steady_pure _ ahead

/-- The next token of a source of whole lines is read inside a line, or there are blanks only up to
the end, and there a failure shows. -/
theorem token_failing (dialect : Dialect) (lined : s.Lined) (normal : s.failure = none)
    (text : String) : token dialect (s.failing text) = failingResult text (token dialect s) ∧
      ((∀ c ∈ s.unread, isWhitespace c) ∨
        ∀ fault t, token dialect s = .error fault t → fault.recoverable = true) := by
  simp only [token, bind, EStateM.bind]
  rcases nextNonBlank_failing normal text with ⟨c, t, found, foundToo⟩ | ⟨t, ended, failed, blank⟩
  · rw [found, foundToo]
    obtain ⟨_, behind, value, dark⟩ := nextNonBlank_some found
    have other : c ≠ '\n' := by
      rintro rfl
      cases dark
    have rest := lined.of_leads ((reaches_nextNonBlank s).leads found)
    have steady : Steady text t (tokenFrom dialect c) :=
      steady_tokenFrom dialect behind value (rest.ahead behind value other)
    exact ⟨steady.same, Or.inr steady.broken⟩
  · rw [ended, failed]
    exact ⟨rfl, Or.inl blank⟩

/-- Where reading a token is broken off, nothing but blanks is left. -/
theorem blank_of_token_failing {dialect : Dialect} {fault : Fault} (lined : s.Lined)
    (normal : s.failure = none) (broken : token dialect (s.failing text) = .error fault t)
    (final : fault.recoverable = false) :
    fault = .device text ∧ ∀ c ∈ s.unread, isWhitespace c := by
  have last := ((reaches_token dialect (s.failing text)).broken broken).2 final
  obtain ⟨same, blank | inside⟩ := token_failing dialect lined normal text
  · exact ⟨last.2, blank⟩
  · rw [same] at broken
    cases run : token dialect s with
    | ok taken rest =>
      rw [run] at broken
      cases broken
    | error reason rest =>
      have recoverable := inside reason rest run
      rw [run, failingResult, Fault.orDevice_of_recoverable recoverable] at broken
      cases broken
      rw [final] at recoverable
      cases recoverable

end Source

theorem linesFrom_append_newline (line front rest : List UInt8) :
    linesFrom line (front ++ 10 :: rest) = linesFrom line (front ++ [10]) ++ linesFrom [] rest := by
  induction front generalizing line with
  | nil => simp [linesFrom]
  | cons b front ih =>
    rw [List.cons_append, List.cons_append, linesFrom, linesFrom]
    split
    next => rw [ih, List.cons_append]
    next => exact ih (b :: line)

theorem getLast?_of_mem_linesFrom {line front found : List UInt8}
    (h : found ∈ linesFrom line (front ++ [10])) : found.getLast? = some 10 := by
  induction front generalizing line with
  | nil =>
    have only : found = (10 :: line).reverse := by simpa [linesFrom] using h
    simp [only]
  | cons b front ih =>
    rw [List.cons_append, linesFrom] at h
    split at h
    next newline =>
      rcases List.mem_cons.mp h with rfl | later
      · simp [newline]
      · exact ih later
    next => exact ih h

/-- The bytes up to and including the last newline. -/
def wholeLines (bytes : List UInt8) : List UInt8 := bytes.rdropWhile fun b => b ≠ 10

theorem wholeLines_cases (bytes : List UInt8) : ∃ tail, 10 ∉ tail ∧
    bytes = wholeLines bytes ++ tail ∧
      (wholeLines bytes = [] ∨ ∃ front, wholeLines bytes = front ++ [10]) := by
  refine ⟨bytes.rtakeWhile fun b => b ≠ 10, fun listed => ?_, ?_, ?_⟩
  · have other := List.mem_rtakeWhile_imp listed
    simp at other
  · exact List.rdropWhile_append_rtakeWhile.symm
  · by_cases empty : wholeLines bytes = []
    · exact Or.inl empty
    · have last : ¬decide ((wholeLines bytes).getLast empty ≠ 10) = true :=
        List.rdropWhile_last_not (fun b => decide (b ≠ 10)) bytes empty
      have newline : (wholeLines bytes).getLast empty = 10 := by simpa using last
      have split := List.dropLast_concat_getLast empty
      rw [newline] at split
      exact Or.inr ⟨_, split.symm⟩

/-- The whole lines of a text are the lines of its whole lines. -/
theorem filter_lines (bytes : List UInt8) :
    (lines bytes).filter (·.getLast? == some 10) = lines (wholeLines bytes) := by
  obtain ⟨tail, absent, whole, ends⟩ := wholeLines_cases bytes
  have unfinished : (lines tail).filter (·.getLast? == some 10) = [] := by
    refine List.filter_eq_nil_iff.mpr fun line listed newline => absent ?_
    rw [← lines_flatten tail]
    exact List.mem_flatten.mpr ⟨line, listed, List.mem_of_getLast? (by simpa using newline)⟩
  rcases ends with empty | ⟨front, front_eq⟩
  · rw [empty, List.nil_append] at whole
    rw [empty, whole, unfinished]
    rfl
  · have all : (lines (front ++ [10])).filter (·.getLast? == some 10) = lines (front ++ [10]) := by
      refine List.filter_eq_self.mpr fun line listed => ?_
      simpa using getLast?_of_mem_linesFrom listed
    have cut : lines bytes = lines (front ++ [10]) ++ lines tail := by
      conv => lhs; rw [whole, front_eq, List.append_assoc]
      exact linesFrom_append_newline [] front tail
    rw [cut, List.filter_append, all, unfinished, List.append_nil, front_eq]

namespace Source

/-- When fetching fails, the whole lines are there and the failure behind them. -/
theorem ofBytes_failing (bytes : List UInt8) (text : String) :
    ofBytes bytes (some text) = (ofBytes (wholeLines bytes) none).failing text := by
  simp only [ofBytes, failing, Option.isSome_some, ↓reduceIte, filter_lines, Option.isSome_none,
    Bool.false_eq_true]

theorem lined_wholeLines (bytes : List UInt8) : (ofBytes (wholeLines bytes) none).Lined := by
  intro line listed
  rcases List.mem_cons.mp listed with rfl | later
  · exact Or.inl rfl
  · simp only [ofBytes, Option.isSome_none, Bool.false_eq_true, ↓reduceIte, ← filter_lines] at later
    obtain ⟨whole, kept, rfl⟩ := List.mem_map.mp later
    have newline : whole.getLast? = some 10 := by simpa using (List.mem_filter.mp kept).2
    refine Or.inr ?_
    simpa [Array.back?_eq_getElem?, List.getLast?_eq_getElem?] using decodeLossy_getLast newline

end Source

end Calculator
