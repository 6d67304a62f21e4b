import Calculator.Fault
import Calculator.Unicode.Whitespace
import Calculator.Utf8

namespace Calculator

/-- A source of characters that holds one line at a time. `pending` are the lines that have not
been fetched; `failure` is the text of the error that fetching ends with, if it does not simply
end. -/
structure Source where
  line : Array Char
  pos : Nat
  pending : List (Array Char)
  failure : Option String

/-- An operation on a source. A fault can break it off, and the source that is left then is the
one to go on with. -/
abbrev Scan := EStateM Fault Source

namespace Scan

variable {α β : Type} {s t : Source}

theorem bind_eq_ok {x : Scan α} {f : α → Scan β} {b : β} :
    (x >>= f) s = .ok b t ↔ ∃ a r, x s = .ok a r ∧ f a r = .ok b t := by
  simp only [bind, EStateM.bind]
  cases x s <;> simp [and_assoc]

theorem bind_eq_error {x : Scan α} {f : α → Scan β} {fault : Fault} :
    (x >>= f) s = .error fault t ↔
      x s = .error fault t ∨ ∃ a r, x s = .ok a r ∧ f a r = .error fault t := by
  simp only [bind, EStateM.bind]
  cases x s <;> simp [and_assoc]

end Scan

namespace Source

/-- The source of some bytes. When fetching fails after them, the fetch that fails is the one that
would have completed the last line, so only whole lines are there. -/
def ofBytes (bytes : List UInt8) (failure : Option String) : Source where
  line := #[]
  pos := 0
  pending :=
    let all := lines bytes
    let whole := if failure.isSome then all.filter (·.getLast? == some 10) else all
    whole.map fun line => (decodeLossy line).toArray
  failure

/-- A source with one more line behind those it has. -/
def feed (line : List UInt8) (s : Source) : Source :=
  { s with pending := s.pending ++ [(decodeLossy line).toArray] }

/-- A source that simply ends behind the lines it has. -/
def close (s : Source) : Source := { s with failure := none }

/-- All characters that are still to come. -/
def unread (s : Source) : List Char :=
  s.line.toList.drop s.pos ++ s.pending.flatMap Array.toList

/-- Fetches the next line that holds something, if the present one is used up. -/
def fill (s : Source) : Source :=
  if s.pos < s.line.size then s
  else match s.pending.dropWhile Array.isEmpty with
    | [] => s
    | line :: pending => { s with line, pos := 0, pending }

/-- Moves on in the present line. -/
def advance (n : Nat) (s : Source) : Source := { s with pos := s.pos + n }

/-- The next character, which stays where it is. -/
def peek : Scan (Option Char) := fun s =>
  let s := s.fill
  match s.line[s.pos]?, s.failure with
  | some c, _ => .ok (some c) s
  | none, none => .ok none s
  | none, some text => .error (.device text) s

/-- The character `n` places ahead, looked for in the present line only. -/
def ahead (s : Source) (n : Nat) : Option Char := s.line[s.pos + n]?

/-- Takes the next character. -/
def next : Scan (Option Char) := do
  let c ← peek
  if c.isSome then modify (advance 1)
  return c

/-- Gives a character back: a step back over it where it stands just behind, an insertion
otherwise. -/
def putBack (c : Char) (s : Source) : Source :=
  if 0 < s.pos ∧ s.line[s.pos - 1]? = some c then { s with pos := s.pos - 1 }
  else { s with line := s.line.insertIdxIfInBounds s.pos c }

theorem flatMap_dropWhile_isEmpty (pending : List (Array Char)) :
    (pending.dropWhile Array.isEmpty).flatMap Array.toList = pending.flatMap Array.toList := by
  induction pending with
  | nil => rfl
  | cons line pending ih =>
    rw [List.dropWhile_cons]
    split
    next h =>
      have empty : line = #[] := Array.isEmpty_iff.mp h
      simp [ih, empty]
    next => rfl

theorem unread_fill (s : Source) : s.fill.unread = s.unread := by
  unfold fill
  split
  next => rfl
  next h =>
    have used : s.line.toList.drop s.pos = [] := List.drop_eq_nil_iff.mpr (by simpa using h)
    have pending := flatMap_dropWhile_isEmpty s.pending
    split
    next => rfl
    next line rest hp =>
      rw [hp] at pending
      simp only [unread, List.drop_zero, used, List.nil_append, ← pending, List.flatMap_cons]

theorem failure_fill (s : Source) : s.fill.failure = s.failure := by
  unfold fill
  split
  next => rfl
  next => split <;> rfl

theorem head_of_dropWhile_isEmpty {pending rest : List (Array Char)} {line : Array Char}
    (h : pending.dropWhile Array.isEmpty = line :: rest) : 0 < line.size := by
  have keep := List.head?_dropWhile_not Array.isEmpty pending
  rw [h] at keep
  simp only [List.head?_cons] at keep
  exact Array.size_pos_iff.mpr (fun empty => by simp [empty] at keep)

/-- After fetching, the present position shows the first of the characters to come. -/
theorem getElem?_fill (s : Source) : s.fill.line[s.fill.pos]? = s.unread.head? := by
  rw [← unread_fill]
  unfold fill
  split
  next h => simp [unread, h]
  next h =>
    split
    next hp =>
      have nothing := flatMap_dropWhile_isEmpty s.pending
      rw [hp] at nothing
      have used : s.line.toList.drop s.pos = [] := List.drop_eq_nil_iff.mpr (by simpa using h)
      simp [unread, ← nothing, used]
      omega
    next line rest hp =>
      have filled := head_of_dropWhile_isEmpty hp
      obtain ⟨chars⟩ := line
      cases chars with
      | nil => simp at filled
      | cons c chars => simp [unread]

theorem peek_of_unread_cons {s : Source} {c : Char} {rest : List Char}
    (h : s.unread = c :: rest) : peek s = .ok (some c) s.fill := by
  simp [peek, getElem?_fill, h]

theorem peek_of_unread_nil {s : Source} (h : s.unread = []) :
    peek s = match s.failure with
      | none => .ok none s.fill
      | some text => .error (.device text) s.fill := by
  simp only [peek, getElem?_fill, h, failure_fill, List.head?_nil]
  cases s.failure <;> rfl

/-- What is to come at a position that shows a character. -/
theorem unread_of_getElem? {s : Source} {c : Char} (h : s.line[s.pos]? = some c) :
    s.unread = c :: (s.advance 1).unread := by
  obtain ⟨bound, value⟩ := Array.getElem?_eq_some_iff.mp h
  have step : s.line.toList.drop s.pos = c :: s.line.toList.drop (s.pos + 1) := by
    rw [List.drop_eq_getElem_cons (by simpa using bound)]
    simp [value]
  simp [unread, advance, step]

theorem unread_of_peek {s s' : Source} {c : Char} (h : peek s = .ok (some c) s') :
    s.unread = c :: (s'.advance 1).unread := by
  cases hu : s.unread with
  | nil =>
    rw [peek_of_unread_nil hu] at h
    split at h <;> cases h
  | cons d rest =>
    rw [peek_of_unread_cons hu] at h
    cases h
    rw [← unread_of_getElem? (by rw [getElem?_fill, hu, List.head?_cons]), unread_fill, hu]

theorem next_of_peek {s s' : Source} {c : Char} (h : peek s = .ok (some c) s') :
    next s = .ok (some c) (s'.advance 1) :=
  Scan.bind_eq_ok.mpr ⟨some c, s', h, rfl⟩

theorem peek_of_next {s s' : Source} {c : Char} (h : next s = .ok (some c) s') :
    ∃ here, peek s = .ok (some c) here ∧ s' = here.advance 1 := by
  cases hp : peek s with
  | error fault here => simp [next, bind, EStateM.bind, hp] at h
  | ok d here =>
    cases d with
    | none => simp [next, bind, EStateM.bind, hp, pure, EStateM.pure] at h
    | some d =>
      rw [next_of_peek hp] at h
      cases h
      exact ⟨here, rfl, rfl⟩

/-- Taking a character takes the first of those to come. -/
theorem unread_of_next {s s' : Source} {c : Char} (h : next s = .ok (some c) s') :
    s.unread = c :: s'.unread := by
  obtain ⟨here, hp, rfl⟩ := peek_of_next h
  exact unread_of_peek hp

/-- Takes characters up to the first that is not blank, which it answers. -/
def nextNonBlank (s : Source) : EStateM.Result Fault Source (Option Char) :=
  match _taken : next s with
  | .ok (some c) rest => if isWhitespace c then nextNonBlank rest else .ok (some c) rest
  | .ok none rest => .ok none rest
  | .error fault rest => .error fault rest
termination_by s.unread.length
decreasing_by simp [unread_of_next _taken]

/-- Takes characters as long as they pass a test. -/
def takeWhile (test : Char → Bool) (s : Source) : EStateM.Result Fault Source (List Char) :=
  match _seen : peek s with
  | .ok (some c) here =>
    if test c then
      match takeWhile test (here.advance 1) with
      | .ok taken rest => .ok (c :: taken) rest
      | .error fault rest => .error fault rest
    else .ok [] here
  | .ok none here => .ok [] here
  | .error fault here => .error fault here
termination_by s.unread.length
decreasing_by simp [unread_of_peek _seen]

/-- Takes characters up to and including `target`. The answer tells whether it was met, and adds
to `skipped` the number of characters before it. -/
def skipThrough (target : Char) (skipped : Nat) (s : Source) :
    EStateM.Result Fault Source (Bool × Nat) :=
  match taken : next s with
  | .ok (some c) rest =>
    if c = target then .ok (true, skipped) rest else skipThrough target (skipped + 1) rest
  | .ok none rest => .ok (false, skipped) rest
  | .error fault rest => .error fault rest
termination_by s.unread.length
decreasing_by simp [unread_of_next taken]

theorem getElem?_of_peek {s s' : Source} {c : Char} (h : peek s = .ok (some c) s') :
    s'.line[s'.pos]? = some c := by
  simp only [peek] at h
  split at h <;> cases h
  assumption

theorem unread_of_peek_none {s s' : Source} (h : peek s = .ok none s') :
    s.unread = [] ∧ s'.unread = [] := by
  cases hu : s.unread with
  | nil =>
    rw [peek_of_unread_nil hu] at h
    split at h <;> cases h
    exact ⟨rfl, by rw [unread_fill, hu]⟩
  | cons c rest =>
    rw [peek_of_unread_cons hu] at h
    cases h

theorem unread_of_next_none {s s' : Source} (h : next s = .ok none s') : s'.unread = [] := by
  cases hp : peek s with
  | error fault here => simp [next, bind, EStateM.bind, hp] at h
  | ok d here =>
    cases d with
    | none =>
      simp only [next, bind, EStateM.bind, hp, pure, Option.isSome_none] at h
      cases h
      exact (unread_of_peek_none hp).2
    | some d =>
      rw [next_of_peek hp] at h
      cases h

/-- Looking at the next character takes nothing. -/
theorem unread_of_peek_ok {s s' : Source} {c : Option Char} (h : peek s = .ok c s') :
    s'.unread = s.unread := by
  cases c with
  | none =>
    obtain ⟨before, after⟩ := unread_of_peek_none h
    rw [before, after]
  | some c => rw [unread_of_peek h, unread_of_getElem? (getElem?_of_peek h)]

/-- What is taken stands just behind the new position, so that giving it back is a step back. -/
theorem getElem?_of_next {s s' : Source} {c : Char} (h : next s = .ok (some c) s') :
    0 < s'.pos ∧ s'.line[s'.pos - 1]? = some c := by
  obtain ⟨here, hp, rfl⟩ := peek_of_next h
  exact ⟨Nat.succ_pos _, getElem?_of_peek hp⟩

theorem unread_putBack_of_getElem? {s : Source} {c : Char} (behind : 0 < s.pos)
    (h : s.line[s.pos - 1]? = some c) : (putBack c s).unread = c :: s.unread := by
  have step : putBack c s = { s with pos := s.pos - 1 } := by simp [putBack, behind, h]
  rw [step, unread_of_getElem? (s := { s with pos := s.pos - 1 }) h]
  simp only [advance, Nat.sub_add_cancel behind]

/-- The answer of skipping blanks is a character that was just taken, and not a blank one. -/
theorem nextNonBlank_some {s s' : Source} {c : Char} (h : nextNonBlank s = .ok (some c) s') :
    s'.unread.length < s.unread.length ∧ 0 < s'.pos ∧ s'.line[s'.pos - 1]? = some c ∧
      isWhitespace c = false := by
  fun_induction nextNonBlank s with
  | case1 s d rest taken blank ih =>
    obtain ⟨less, behind⟩ := ih h
    exact ⟨by rw [unread_of_next taken, List.length_cons]; omega, behind⟩
  | case2 s d rest taken dark =>
    cases h
    obtain ⟨behind, value⟩ := getElem?_of_next taken
    exact ⟨by simp [unread_of_next taken], behind, value, by simpa using dark⟩
  | case3 => cases h
  | case4 => cases h

theorem peek_error {s s' : Source} {fault : Fault} (h : peek s = .error fault s') :
    fault.recoverable = false ∧ s'.unread = [] := by
  cases hu : s.unread with
  | nil =>
    rw [peek_of_unread_nil hu] at h
    split at h <;> cases h
    exact ⟨rfl, by rw [unread_fill, hu]⟩
  | cons c rest =>
    rw [peek_of_unread_cons hu] at h
    cases h

theorem next_error {s s' : Source} {fault : Fault} (h : next s = .error fault s') :
    fault.recoverable = false := by
  rcases Scan.bind_eq_error.mp h with hp | ⟨c, here, hp, h⟩
  · exact (peek_error hp).1
  · cases c <;> cases h

theorem nextNonBlank_error {s s' : Source} {fault : Fault}
    (h : nextNonBlank s = .error fault s') : fault.recoverable = false := by
  fun_induction nextNonBlank s with
  | case1 s c rest taken blank ih => exact ih h
  | case2 => cases h
  | case3 => cases h
  | case4 s broken rest taken =>
    cases h
    exact next_error taken

/-- What is taken passes the test, and what is left starts with a character that does not. -/
theorem takeWhile_ok {test : Char → Bool} {s s' : Source} {taken : List Char}
    (h : takeWhile test s = .ok taken s') :
    s.unread = taken ++ s'.unread ∧ (∀ c ∈ taken, test c) ∧
      ∀ c rest, s'.unread = c :: rest → test c = false := by
  fun_induction takeWhile test s generalizing taken with
  | case1 s d here seen pass more rest eq ih =>
    cases h
    obtain ⟨whole, all, stop⟩ := ih eq
    refine ⟨?_, ?_, stop⟩
    · rw [unread_of_peek seen, whole, List.cons_append]
    · intro c hc
      rcases List.mem_cons.mp hc with rfl | hc
      · exact pass
      · exact all c hc
  | case2 => cases h
  | case3 s d here seen fails =>
    cases h
    have same := unread_of_peek_ok seen
    refine ⟨by simp [same], by simp, ?_⟩
    intro c rest hu
    rw [same, unread_of_peek seen] at hu
    cases hu
    simpa using fails
  | case4 s here seen =>
    cases h
    obtain ⟨before, after⟩ := unread_of_peek_none seen
    exact ⟨by simp [before, after], by simp, by simp [after]⟩
  | case5 => cases h

theorem takeWhile_error {test : Char → Bool} {s s' : Source} {fault : Fault}
    (h : takeWhile test s = .error fault s') : fault.recoverable = false ∧ s'.unread = [] := by
  fun_induction takeWhile test s with
  | case1 => cases h
  | case2 s d here seen pass broken rest eq ih =>
    cases h
    exact ih eq
  | case3 => cases h
  | case4 => cases h
  | case5 s broken here seen =>
    cases h
    exact peek_error seen

/-- Skipping goes forward. -/
theorem skipThrough_ok {target : Char} {skipped : Nat} {s s' : Source} {answer : Bool × Nat}
    (h : skipThrough target skipped s = .ok answer s') :
    s'.unread.length ≤ s.unread.length := by
  fun_induction skipThrough target skipped s with
  | case1 s skipped rest taken =>
    cases h
    simp [unread_of_next taken]
  | case2 s skipped c rest taken other ih =>
    have := ih h
    rw [unread_of_next taken, List.length_cons]
    omega
  | case3 s skipped rest taken =>
    cases h
    simp [unread_of_next_none taken]
  | case4 => cases h

end Source

end Calculator
