import Calculator.Proofs.CallRecords
import Calculator.Proofs.FailingSource

namespace Calculator

/-- An access to the characters of a source. -/
inductive Access where
  | peek
  | next
  | nextNonBlank
  | putBack (c : Char)

/-- What an access answers. -/
inductive AccessAnswer where
  | char (c : Char)
  | nothing
  | done
  | fault (fault : Fault)

/-- A plain list of characters, and the text of the error that is met behind them if there is
one. -/
structure Characters where
  text : List Char
  failure : Option String

/-- The first character. Where there is none, the list stays as it is and answers how it ends. -/
def Characters.head (chars : Characters) : AccessAnswer :=
  match chars.text, chars.failure with
  | c :: _, _ => .char c
  | [], none => .nothing
  | [], some text => .fault (.device text)

/-- What the accesses are meant to do. -/
def Characters.access (chars : Characters) : Access → AccessAnswer × Characters
  | .peek => (chars.head, chars)
  | .next => (chars.head, { chars with text := chars.text.tail })
  | .nextNonBlank =>
    let dark := { chars with text := chars.text.dropWhile isWhitespace }
    (dark.head, { dark with text := dark.text.tail })
  | .putBack c => (.done, { chars with text := c :: chars.text })

theorem drop_insertIdx {text : List Char} {n : Nat} (bound : n ≤ text.length) (c : Char) :
    (text.insertIdx n c).drop n = c :: text.drop n := by
  induction n generalizing text with
  | zero => rfl
  | succ n ih =>
    cases text with
    | nil => cases bound
    | cons d text => simpa using ih (Nat.le_of_succ_le_succ bound)

namespace Source

/-- The answer of an operation that looks for a character, and the source it leaves. -/
def answered : EStateM.Result Fault Source (Option Char) → AccessAnswer × Source
  | .ok (some c) t => (.char c, t)
  | .ok none t => (.nothing, t)
  | .error fault t => (.fault fault, t)

def access (s : Source) : Access → AccessAnswer × Source
  | .peek => answered (peek s)
  | .next => answered (next s)
  | .nextNonBlank => answered (nextNonBlank s)
  | .putBack c => (.done, putBack c s)

/-- A source whose characters to come are those of a list. -/
structure Shows (s : Source) (chars : Characters) : Prop where
  unread : s.unread = chars.text
  failure : s.failure = chars.failure
  inside : s.pos ≤ s.line.size

theorem pos_fill_le {s : Source} (inside : s.pos ≤ s.line.size) : s.fill.pos ≤ s.fill.line.size := by
  unfold fill
  split
  next => exact inside
  next =>
    split
    next => exact inside
    next => exact Nat.zero_le _

theorem pos_le_of_getElem? {s : Source} {c : Char} (behind : 0 < s.pos)
    (h : s.line[s.pos - 1]? = some c) : s.pos ≤ s.line.size := by
  obtain ⟨bound, _⟩ := Array.getElem?_eq_some_iff.mp h
  omega

/-- A character that is given back comes first, also one that was never taken. -/
theorem unread_putBack {s : Source} (inside : s.pos ≤ s.line.size) (c : Char) :
    (putBack c s).unread = c :: s.unread ∧ (putBack c s).pos ≤ (putBack c s).line.size := by
  by_cases behind : 0 < s.pos ∧ s.line[s.pos - 1]? = some c
  · refine ⟨unread_putBack_of_getElem? behind.1 behind.2, ?_⟩
    rw [putBack, if_pos behind]
    exact Nat.le_trans (Nat.sub_le _ _) inside
  · -- The position is inside the line or right behind it, where an insertion has its place.
    have inserted : (s.line.insertIdxIfInBounds s.pos c).toList =
        s.line.toList.insertIdx s.pos c := by
      rw [Array.insertIdxIfInBounds, dif_pos inside, Array.toList_insertIdx]
    have bound : s.pos ≤ s.line.toList.length := inside
    rw [putBack, if_neg behind]
    constructor
    · simp only [unread, inserted, drop_insertIdx bound, List.cons_append]
    · show s.pos ≤ (s.line.insertIdxIfInBounds s.pos c).size
      rw [← Array.length_toList, inserted, List.length_insertIdx_of_le_length bound]
      exact Nat.le_succ_of_le bound

theorem failure_putBack (c : Char) (s : Source) : (putBack c s).failure = s.failure := by
  unfold putBack
  split <;> rfl

namespace Shows

variable {s : Source} {chars : Characters}

theorem fill (h : s.Shows chars) : s.fill.Shows chars :=
  ⟨(unread_fill s).trans h.unread, (failure_fill s).trans h.failure, pos_fill_le h.inside⟩

theorem peek (h : s.Shows chars) :
    (answered (Source.peek s)).1 = chars.head ∧ (answered (Source.peek s)).2.Shows chars := by
  cases text : chars.text with
  | cons c rest =>
    rw [peek_of_unread_cons (h.unread.trans text)]
    exact ⟨by rw [Characters.head, text]; rfl, h.fill⟩
  | nil =>
    rw [peek_of_unread_nil (h.unread.trans text), h.failure, Characters.head, text]
    cases chars.failure with
    | none => exact ⟨rfl, h.fill⟩
    | some message => exact ⟨rfl, h.fill⟩

theorem next_of_nil (h : s.Shows chars) (text : chars.text = []) :
    (answered (Source.next s)).1 = chars.head ∧ (answered (Source.next s)).2.Shows chars := by
  have used := h.unread.trans text
  have taken := next_of_unread_nil used
  have seen := peek_of_unread_nil used
  have run : Source.next s = Source.peek s := by
    cases failing : s.failure with
    | none =>
      rw [failing] at taken seen
      exact taken.trans seen.symm
    | some message =>
      rw [failing] at taken seen
      exact taken.trans seen.symm
  rw [run]
  exact h.peek

theorem next_of_cons (h : s.Shows chars) {c : Char} {rest : List Char} (text : chars.text = c :: rest) :
    ∃ t, Source.next s = .ok (some c) t ∧ t.Shows { chars with text := rest } := by
  obtain ⟨t, taken, left⟩ := next_of_unread_cons (h.unread.trans text)
  obtain ⟨behind, value⟩ := getElem?_of_next taken
  have leads := (reaches_next s).leads taken
  exact ⟨t, taken, left, leads.failure.trans h.failure, pos_le_of_getElem? behind value⟩

theorem next (h : s.Shows chars) : (answered (Source.next s)).1 = (chars.access .next).1 ∧
    (answered (Source.next s)).2.Shows (chars.access .next).2 := by
  cases text : chars.text with
  | nil =>
    have same : (chars.access .next).2 = chars := by
      rw [Characters.access, text, List.tail_nil, ← text]
    rw [same]
    exact h.next_of_nil text
  | cons c rest =>
    obtain ⟨t, taken, shows⟩ := h.next_of_cons text
    rw [taken]
    refine ⟨?_, ?_⟩
    · simp only [Characters.access, Characters.head, text]
      rfl
    · simp only [Characters.access, text, List.tail_cons]
      exact shows

theorem nextNonBlank (h : s.Shows chars) :
    (answered (Source.nextNonBlank s)).1 = (chars.access .nextNonBlank).1 ∧
      (answered (Source.nextNonBlank s)).2.Shows (chars.access .nextNonBlank).2 := by
  obtain ⟨text, failure⟩ := chars
  induction text generalizing s with
  | nil =>
    have run : Source.nextNonBlank s = Source.next s := by
      rw [nextNonBlank_of_unread_nil h.unread, next_of_unread_nil h.unread]
    rw [run]
    exact h.next_of_nil rfl
  | cons c rest ih =>
    obtain ⟨t, taken, shows⟩ := h.next_of_cons rfl
    rw [nextNonBlank_of_next taken]
    by_cases blank : isWhitespace c = true
    · rw [if_pos blank]
      have same : Characters.access ⟨c :: rest, failure⟩ .nextNonBlank =
          Characters.access ⟨rest, failure⟩ .nextNonBlank := by
        simp only [Characters.access, List.dropWhile_cons_of_pos blank]
      rw [same]
      exact ih shows
    · rw [if_neg blank]
      simp only [Characters.access, List.dropWhile_cons_of_neg blank, List.tail_cons]
      exact ⟨rfl, shows⟩

theorem access (h : s.Shows chars) (access : Access) :
    (s.access access).1 = (chars.access access).1 ∧
      (s.access access).2.Shows (chars.access access).2 := by
  cases access with
  | peek => exact h.peek
  | next => exact h.next
  | nextNonBlank => exact h.nextNonBlank
  | putBack c =>
    obtain ⟨first, inside⟩ := unread_putBack h.inside c
    refine ⟨rfl, ?_, (failure_putBack c s).trans h.failure, inside⟩
    simp only [Source.access, Characters.access, first, h.unread]

end Shows

/-- A source starts as the text of its bytes, of the whole lines only if reading fails. -/
theorem shows_ofBytes (bytes : List UInt8) (failure : Option String) :
    (ofBytes bytes failure).Shows
      ⟨decodeLossy (if failure.isSome then wholeLines bytes else bytes), failure⟩ := by
  cases failure with
  | none => exact ⟨unread_ofBytes bytes, rfl, Nat.le_refl 0⟩
  | some text =>
    rw [ofBytes_failing]
    exact ⟨unread_ofBytes (wholeLines bytes), rfl, Nat.le_refl 0⟩

end Source

/-- Whatever is asked of a source, it answers as the list of its characters. -/
theorem source_is_character_list (bytes : List UInt8) (failure : Option String)
    (accesses : List Access) :
    let chars : Characters :=
      ⟨decodeLossy (if failure.isSome then wholeLines bytes else bytes), failure⟩
    (recordCalls Source.access (.ofBytes bytes failure) accesses).1 =
        (recordCalls Characters.access chars accesses).1 ∧
      (recordCalls Source.access (.ofBytes bytes failure) accesses).2.unread =
        (recordCalls Characters.access chars accesses).2.text ∧
      (lines bytes).flatMap decodeLossy = decodeLossy bytes := by
  intro chars
  obtain ⟨same, shows⟩ := recordCalls_alike (fun _ _ access shows => shows.access access)
    (Source.shows_ofBytes bytes failure) accesses
  exact ⟨same, shows.unread, flatMap_decodeLossy_linesFrom [] bytes⟩

end Calculator
