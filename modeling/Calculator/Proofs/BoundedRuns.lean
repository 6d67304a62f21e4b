import Calculator.Proofs.TextPositions
import Calculator.Proofs.UsableNames
import Mathlib.Data.List.Flatten

namespace Calculator

theorem Source.unread_ofBytes_sublist (bytes : List UInt8) (failure : Option String) :
    (ofBytes bytes failure).unread.Sublist (decodeLossy bytes) := by
  have kept : (if failure.isSome then (lines bytes).filter (·.getLast? == some 10)
      else lines bytes).Sublist (lines bytes) := by
    split
    next => exact List.filter_sublist
    next => exact List.Sublist.refl _
  have all := unread_ofBytes bytes
  simp only [unread, ofBytes, Option.isSome_none, Bool.false_eq_true, ↓reduceIte] at all ⊢
  rw [← all]
  exact (List.Sublist.refl _).append ((kept.map _).flatMap _)

namespace Session

variable {s : Session} {text : List Char}

/-- After a turn that has failed, the session is right behind a separator, or at the end. -/
theorem unread_turn_failed (intact : s.tokens.Intact s.settings.dialect)
    (read : s.tokens.ToRead text) (fails : s.turn.how = .failed) :
    s.turn.session.tokens.held = none ∧ (s.turn.session.tokens.source.unread = [] ∨
      ∃ front, text = front ++ s.settings.dialect.separator ::
        s.turn.session.tokens.source.unread) := by
  have place := (Tokenizer.At.of_intact intact read).find s.table
  rw [tokens_turn_failed fails]
  obtain ⟨later, rest, left, before, rfl, _⟩ := place
  obtain ⟨free, found, missing⟩ := later.discardThrough
  refine ⟨free, ?_⟩
  by_cases listed : Script.separator ∈ (s.tokens.find s.table).tokens.stream
  · obtain ⟨front, same⟩ := (found listed).2.2 rest left
    refine Or.inr ⟨before ++ front, ?_⟩
    rw [List.append_assoc, same]
  · exact Or.inl (missing listed).1

/-- The session after some turns. -/
def afterTurns (s : Session) : Nat → Session
  | 0 => s
  | n + 1 => s.turn.session.afterTurns n

/-- How many of the first turns end in one way. -/
def countTurns (s : Session) (how : TurnEnd) : Nat → Nat
  | 0 => 0
  | n + 1 => (if s.turn.how = how then 1 else 0) + s.turn.session.countTurns how n

def GoesOn (n : Nat) (s : Session) : Prop :=
  ∀ k < n, (s.afterTurns k).turn.how = .evaluated ∨ (s.afterTurns k).turn.how = .failed

theorem GoesOn.first {n : Nat} (h : s.GoesOn (n + 1)) :
    s.turn.how = .evaluated ∨ s.turn.how = .failed := h 0 (Nat.zero_lt_succ n)

theorem GoesOn.later {n : Nat} (h : s.GoesOn (n + 1)) : s.turn.session.GoesOn n :=
  fun k less => h (k + 1) (Nat.succ_lt_succ less)

theorem GoesOn.succ {n : Nat} (first : s.turn.how = .evaluated ∨ s.turn.how = .failed)
    (later : s.turn.session.GoesOn n) : s.GoesOn (n + 1) := by
  intro k less
  cases k with
  | zero => exact first
  | succ k => exact later k (Nat.lt_of_succ_lt_succ less)

/-- Each turn after which the session goes on takes something. -/
theorem GoesOn.le_size {n : Nat} {s : Session} (h : s.GoesOn n) : n ≤ s.tokens.size := by
  induction n generalizing s with
  | zero => exact Nat.zero_le _
  | succ n ih =>
    have less := size_turn h.first
    have rest := ih h.later
    omega

theorem GoesOn.countTurns_add {n : Nat} {s : Session} (h : s.GoesOn n) :
    s.countTurns .evaluated n + s.countTurns .failed n = n := by
  induction n generalizing s with
  | zero => rfl
  | succ n ih =>
    have rest := ih h.later
    rcases h.first with how | how
    · simp only [countTurns, how, ↓reduceIte, reduceCtorEq]
      omega
    · simp only [countTurns, how, ↓reduceIte, reduceCtorEq]
      omega

/-- All but the last of the turns that fail go past a separator. -/
theorem GoesOn.countTurns_failed_le {n : Nat} {s : Session} {text : List Char} (h : s.GoesOn n)
    (intact : s.tokens.Intact s.settings.dialect) (read : s.tokens.ToRead text) :
    s.countTurns .failed n ≤ text.count s.settings.dialect.separator + 1 := by
  induction n generalizing s text with
  | zero => exact Nat.zero_le _
  | succ n ih =>
    have onward := onward_turn s
    have place : s.turn.session.At text := At.turn (Tokenizer.At.of_intact intact read)
    obtain ⟨later, rest, left, before, whole, _⟩ := place
    have bound := ih h.later later left
    rw [onward.settings] at bound
    rcases h.first with how | how
    · have fewer : rest.count s.settings.dialect.separator ≤
          text.count s.settings.dialect.separator := by
        rw [whole, List.count_append]
        omega
      simp only [countTurns, how, ↓reduceIte, reduceCtorEq]
      omega
    · simp only [countTurns, how, ↓reduceIte]
      obtain ⟨free, used | ⟨front, whole⟩⟩ := unread_turn_failed intact read how
      · -- Nothing is left, so no turn follows after which the session goes on.
        have spent : s.turn.session.tokens.size = 0 := by
          simp [Tokenizer.size, used, free]
        have last := h.later.le_size
        obtain rfl : n = 0 := by omega
        exact Nat.le_add_left 1 _
      · have bound := ih h.later later (.source free)
        rw [onward.settings] at bound
        rw [whole, List.count_append, List.count_cons_self]
        omega

/-- A run is some turns after which the session goes on, and a last one that ends it. -/
structure Lasts (s : Session) (evaluated failed n : Nat) (report : Report) : Prop where
  goesOn : s.GoesOn n
  session : report.session = (s.afterTurns n).turn.session
  result :
    (∃ ending, (s.afterTurns n).turn.how = .finished ending ∧ report.result =
      .ok ⟨ending, evaluated + s.countTurns .evaluated n, failed + s.countTurns .failed n⟩) ∨
    ∃ fault, (s.afterTurns n).turn.how = .broken fault ∧ report.result = .error fault

theorem Lasts.after {evaluated failed n : Nat} {report : Report}
    (how : s.turn.how = .evaluated ∨ s.turn.how = .failed)
    (h : s.turn.session.Lasts (if s.turn.how = .evaluated then evaluated + 1 else evaluated)
      (if s.turn.how = .failed then failed + 1 else failed) n report) :
    s.Lasts evaluated failed (n + 1) (report.after s.turn) := by
  obtain ⟨goesOn, session, result⟩ := h
  refine ⟨.succ how goesOn, session, ?_⟩
  rcases result with ⟨ending, last, ended⟩ | ⟨fault, last, broken⟩
  · refine Or.inl ⟨ending, last, ended.trans ?_⟩
    rcases how with how | how
    · simp only [countTurns, how, ↓reduceIte, reduceCtorEq, Nat.zero_add, Nat.add_assoc]
    · simp only [countTurns, how, ↓reduceIte, reduceCtorEq, Nat.zero_add, Nat.add_assoc]
  · exact Or.inr ⟨fault, last, broken⟩

theorem Lasts.counts {n : Nat} {report : Report} {outcome : Outcome} (h : s.Lasts 0 0 n report)
    (ended : report.result = .ok outcome) :
    outcome.evaluated = s.countTurns .evaluated n ∧ outcome.failed = s.countTurns .failed n := by
  rcases h.result with ⟨ending, _, counted⟩ | ⟨fault, _, broken⟩
  · rw [counted, Nat.zero_add, Nat.zero_add] at ended
    cases ended
    exact ⟨rfl, rfl⟩
  · cases broken.symm.trans ended

theorem exists_lasts (s : Session) (evaluated failed : Nat) :
    ∃ n, s.Lasts evaluated failed n (s.runFrom evaluated failed) := by
  have start : s.GoesOn 0 := fun k less => absurd less (Nat.not_lt_zero k)
  rw [runFrom_eq]
  cases h : s.turn.how with
  | evaluated =>
    have less := size_turn (Or.inl h)
    obtain ⟨n, later⟩ := exists_lasts s.turn.session (evaluated + 1) failed
    exact ⟨n + 1, .after (Or.inl h) (by simpa [h] using later)⟩
  | failed =>
    have less := size_turn (Or.inr h)
    obtain ⟨n, later⟩ := exists_lasts s.turn.session evaluated (failed + 1)
    exact ⟨n + 1, .after (Or.inr h) (by simpa [h] using later)⟩
  | finished ending => exact ⟨0, start, rfl, Or.inl ⟨ending, h, rfl⟩⟩
  | broken fault => exact ⟨0, start, rfl, Or.inr ⟨fault, h, rfl⟩⟩
termination_by s.tokens.size

end Session

/-- Every run ends, for each of its turns but the last takes something of the text, and so does
whatever the turn calls; and the first run counts no more statements than the text has characters,
and no more that fail than it has separators, and one. -/
theorem runs_end_within_text {settings : Settings} (accepted : settings.dialect.check = .ok ())
    (bytes : List UInt8) (failure : Option String) (out err : Sink) :
    ∃ first, Session.start settings (.ofBytes bytes failure) out err = .ok first ∧
      (∀ s, first.Visits s →
        (s.turn.how = .evaluated ∨ s.turn.how = .failed →
          s.turn.session.tokens.size < s.tokens.size) ∧
        ∃ n ≤ s.tokens.size, s.Lasts 0 0 n s.run) ∧
      (∀ t : Tokenizer, t.next.Bounded t.size ∧ t.firstToken.Bounded t.size ∧
        (∀ table, (t.primary table).Bounded t.size ∧ (t.term table).Bounded t.size ∧
          (t.expression table).Bounded t.size ∧ (t.statement table).Bounded t.size) ∧
        ∀ c, (t.discardThrough c).result = .ok () →
          (t.discardThrough c).tokens.size ≤ t.source.unread.length) ∧
      ∃ n, first.Lasts 0 0 n first.run ∧
        (∀ outcome, first.run.result = .ok outcome →
          outcome.evaluated = first.countTurns .evaluated n ∧
          outcome.failed = first.countTurns .failed n) ∧
        first.countTurns .evaluated n + first.countTurns .failed n ≤ (decodeLossy bytes).length ∧
        first.countTurns .failed n ≤ (decodeLossy bytes).count settings.dialect.separator + 1 := by
  refine ⟨_, Session.start_eq accepted _ out err, fun s _ => ⟨Session.size_turn, ?_⟩, ?_, ?_⟩
  · obtain ⟨n, lasts⟩ := s.exists_lasts 0 0
    exact ⟨n, lasts.goesOn.le_size, lasts⟩
  · intro t
    refine ⟨(Within.next t).property, (Within.firstToken t).property, fun table => ?_,
      fun c => Tokenizer.size_discardThrough⟩
    exact ⟨(Within.primary table t).property, (Within.term table t).property,
      (Within.expression table t).property, (Within.statement table t).property⟩
  · have among := Source.unread_ofBytes_sublist bytes failure
    have intact := Tokenizer.intact_ofBytes accepted bytes failure
    obtain ⟨n, lasts⟩ := Session.exists_lasts ⟨settings, .ofSource settings.dialect
      (.ofBytes bytes failure), if settings.withConstants then .withConstants else .empty,
      out, err⟩ 0 0
    refine ⟨n, lasts, fun outcome => lasts.counts, ?_, ?_⟩
    · have size := lasts.goesOn.le_size
      have length := among.length_le
      rw [lasts.goesOn.countTurns_add]
      exact size.trans length
    · have bound := lasts.goesOn.countTurns_failed_le intact (.source rfl)
      have fewer := among.count_le settings.dialect.separator
      exact bound.trans (Nat.succ_le_succ fewer)

/-- A text with one separator holds no more than two statements that fail. -/
theorem runs_end_within_text_unfinished : Dialect.check {} = .ok () ∧
    ∃ first, Session.start {} (.ofBytes (encodeUtf8 "2 * ; pi)") none) .unlimited .unlimited =
        .ok first ∧
      ∀ outcome, first.run.result = .ok outcome → outcome.failed ≤ 2 := by
  obtain ⟨first, started, _, _, n, _, counts, _, failed⟩ :=
    @runs_end_within_text {} rfl (encodeUtf8 "2 * ; pi)") none .unlimited .unlimited
  rw [decodeLossy_encodeUtf8] at failed
  refine ⟨rfl, first, started, fun outcome ended => ?_⟩
  rw [(counts outcome ended).2]
  exact failed

end Calculator
