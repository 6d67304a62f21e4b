import Calculator.Proofs.CharacterList
import Calculator.Tokenizer

namespace Calculator

/-- What breaks off an operation that watches its places: a fault, or a place outside the line. -/
inductive Stop where
  | fault (fault : Fault)
  | outside

/-- An operation on a source that looks up, inserts and moves to no place outside the line. -/
abbrev Watched := EStateM Stop Source

namespace Watched

/-- The character at a place of the line. -/
def charAt (place : Nat) : Watched Char := fun s =>
  match s.line[place]? with
  | some c => .ok c s
  | none => .error .outside s

/-- Moves to a place of the line, or right behind its end. -/
def moveTo (place : Nat) : Watched PUnit := fun s =>
  if place ≤ s.line.size then .ok ⟨⟩ { s with pos := place } else .error .outside s

/-- Inserts a character in front of the position. -/
def insert (c : Char) : Watched PUnit := fun s =>
  if s.pos ≤ s.line.size then .ok ⟨⟩ { s with line := s.line.insertIdxIfInBounds s.pos c }
  else .error .outside s

def advance (n : Nat) : Watched PUnit := do moveTo ((← get).pos + n)

/-- The next character, which is at the position if there is anything still to come. -/
def peek : Watched (Option Char) := do
  modify Source.fill
  let s ← get
  if s.unread.isEmpty then
    match s.failure with
    | none => return none
    | some text => throw (.fault (.device text))
  else return some (← charAt s.pos)

def next : Watched (Option Char) := do
  let c ← peek
  if c.isSome then advance 1
  return c

def putBack (c : Char) : Watched PUnit := do
  let pos := (← get).pos
  if 0 < pos then
    let behind ← charAt (pos - 1)
    if behind = c then moveTo (pos - 1) else insert c
  else insert c

end Watched

/-- The outcome of a plain operation, as one that watches its places has it. -/
def watch {α : Type} : EStateM.Result Fault Source α → EStateM.Result Stop Source α
  | .ok a t => .ok a t
  | .error fault t => .error (.fault fault) t

/-- The source that an operation leaves, also where it fails. -/
def leftBy {α : Type} : EStateM.Result Fault Source α → Source
  | .ok _ t => t
  | .error _ t => t

/-- The position is in the line, or right behind its end. -/
def Source.Inside (s : Source) : Prop := s.pos ≤ s.line.size

/-- At a source, an operation that watches its places does just what the plain one does, and leaves
the position inside. -/
structure Source.StaysInside {α : Type} (s : Source) (watched : Watched α) (plain : Scan α) :
    Prop where
  same : watched s = watch (plain s)
  inside : (leftBy (plain s)).Inside

namespace Source

variable {α β : Type} {s t : Source}

theorem StaysInside.of_ok {watched : Watched α} {plain : Scan α} {a : α}
    (h : s.StaysInside watched plain) (run : plain s = .ok a t) :
    watched s = .ok a t ∧ t.Inside := by
  obtain ⟨same, inside⟩ := h
  rw [run] at same inside
  exact ⟨same, inside⟩

theorem StaysInside.of_error {watched : Watched α} {plain : Scan α} {fault : Fault}
    (h : s.StaysInside watched plain) (run : plain s = .error fault t) :
    watched s = .error (.fault fault) t ∧ t.Inside := by
  obtain ⟨same, inside⟩ := h
  rw [run] at same inside
  exact ⟨same, inside⟩

theorem staysInside_pure (inside : s.Inside) (a : α) : s.StaysInside (pure a) (pure a) :=
  ⟨rfl, inside⟩

theorem staysInside_throw (inside : s.Inside) (fault : Fault) :
    s.StaysInside (throw (.fault fault) : Watched α) (throw fault) :=
  ⟨rfl, inside⟩

theorem staysInside_ite {p : Prop} [Decidable p] {watched watched' : Watched α}
    {plain plain' : Scan α} (first : p → s.StaysInside watched plain)
    (second : ¬p → s.StaysInside watched' plain') :
    s.StaysInside (if p then watched else watched') (if p then plain else plain') := by
  by_cases h : p
  · rw [if_pos h, if_pos h]
    exact first h
  · rw [if_neg h, if_neg h]
    exact second h

theorem staysInside_bind {watched : Watched α} {plain : Scan α} {more : α → Watched β}
    {further : α → Scan β} (first : s.StaysInside watched plain)
    (later : ∀ a t, plain s = .ok a t → t.Inside → t.StaysInside (more a) (further a)) :
    s.StaysInside (watched >>= more) (plain >>= further) := by
  obtain ⟨same, inside⟩ := first
  cases run : plain s with
  | ok a t =>
    rw [run] at same inside
    obtain ⟨goesOn, stays⟩ := later a t run inside
    have plainRun : (plain >>= further) s = further a t := by
      simp only [bind, EStateM.bind, run]
    have watchedRun : (watched >>= more) s = more a t := by
      simp only [bind, EStateM.bind, same, watch]
    exact ⟨by rw [plainRun, watchedRun, goesOn], by rw [plainRun]; exact stays⟩
  | error fault t =>
    rw [run] at same inside
    have plainRun : (plain >>= further) s = .error fault t := by
      simp only [bind, EStateM.bind, run]
    have watchedRun : (watched >>= more) s = .error (.fault fault) t := by
      simp only [bind, EStateM.bind, same, watch]
    exact ⟨by rw [plainRun, watchedRun]; rfl, by rw [plainRun]; exact inside⟩

theorem inside_of_getElem? {c : Char} (h : s.line[s.pos]? = some c) : (s.advance 1).Inside :=
  (Array.getElem?_eq_some_iff.mp h).1

theorem staysInside_advance {n : Nat} (room : (s.advance n).Inside) :
    s.StaysInside (Watched.advance n) (modify (advance n)) :=
  ⟨if_pos room, room⟩

/-- Looking at the next character looks up no place outside the line, wherever the position is. -/
theorem watched_peek (s : Source) : Watched.peek s = watch (peek s) := by
  have run : Watched.peek s = (if s.fill.unread.isEmpty then
      (match s.fill.failure with
        | none => pure none
        | some text => throw (.fault (.device text)) : Watched (Option Char))
      else do return some (← Watched.charAt s.fill.pos)) s.fill := rfl
  cases hu : s.unread with
  | nil =>
    rw [run, unread_fill, failure_fill, hu, if_pos List.isEmpty_nil, peek_of_unread_nil hu]
    cases s.failure with
    | none => rfl
    | some text => rfl
  | cons c rest =>
    have shown : s.fill.line[s.fill.pos]? = some c := by rw [getElem?_fill, hu, List.head?_cons]
    have found : Watched.charAt s.fill.pos s.fill = .ok c s.fill := by
      rw [Watched.charAt, shown]
    rw [run, unread_fill, hu, if_neg (by simp), peek_of_unread_cons hu]
    simp only [bind, EStateM.bind, found]
    rfl

theorem inside_peek (inside : s.Inside) : (leftBy (peek s)).Inside := by
  have filled : s.fill.Inside := pos_fill_le inside
  cases hu : s.unread with
  | nil =>
    rw [peek_of_unread_nil hu]
    cases s.failure with
    | none => exact filled
    | some text => exact filled
  | cons c rest =>
    rw [peek_of_unread_cons hu]
    exact filled

theorem staysInside_peek (inside : s.Inside) : s.StaysInside Watched.peek peek :=
  ⟨watched_peek s, inside_peek inside⟩

/-- Behind a character that was seen there is still a place to move to. -/
theorem room_of_peek {c : Char} (h : peek s = .ok (some c) t) : (t.advance 1).Inside :=
  inside_of_getElem? (getElem?_of_peek h)

theorem staysInside_next (inside : s.Inside) : s.StaysInside Watched.next next := by
  refine staysInside_bind (staysInside_peek inside) fun c t seen within => ?_
  cases c with
  | none => exact staysInside_pure within none
  | some c =>
    refine staysInside_bind (staysInside_advance (room_of_peek seen)) fun _ u _ inner => ?_
    exact staysInside_pure inner (some c)

/-- Giving a character back, which looks behind the position and inserts there, does so inside. -/
theorem staysInside_putBack (inside : s.Inside) (c : Char) :
    s.StaysInside (Watched.putBack c) (modify (putBack c)) := by
  refine ⟨?_, (unread_putBack inside c).2⟩
  have run : Watched.putBack c s = (if 0 < s.pos then do
      let behind ← Watched.charAt (s.pos - 1)
      if behind = c then Watched.moveTo (s.pos - 1) else Watched.insert c
    else Watched.insert c) s := rfl
  have plain : watch ((modify (putBack c) : Scan PUnit) s) = .ok ⟨⟩ (putBack c s) := rfl
  have inserted : Watched.insert c s =
      .ok ⟨⟩ { s with line := s.line.insertIdxIfInBounds s.pos c } := if_pos inside
  rw [run, plain, putBack]
  by_cases behind : 0 < s.pos
  · have bound : s.pos - 1 < s.line.size := Nat.lt_of_lt_of_le (Nat.sub_one_lt_of_lt behind) inside
    have shown : s.line[s.pos - 1]? = some s.line[s.pos - 1] := Array.getElem?_eq_getElem bound
    have found : Watched.charAt (s.pos - 1) s = .ok s.line[s.pos - 1] s := by
      rw [Watched.charAt, shown]
    rw [if_pos behind, shown]
    simp only [bind, EStateM.bind, found]
    by_cases same : s.line[s.pos - 1] = c
    · rw [if_pos same, if_pos ⟨behind, congrArg some same⟩, Watched.moveTo,
        if_pos (Nat.le_of_lt bound)]
    · rw [if_neg same, if_neg fun h => same (Option.some.inj h.2), inserted]
  · rw [if_neg behind, if_neg fun h => behind h.1, inserted]

end Source

namespace Watched

variable {s t : Source}

theorem peek_eq_ok {c : Option Char} (h : peek s = .ok c t) : s.peek = .ok c t := by
  rw [Source.watched_peek] at h
  cases run : s.peek with
  | ok d u =>
    rw [run] at h
    cases h
    rfl
  | error fault u =>
    rw [run] at h
    cases h

theorem advance_eq_ok {n : Nat} {done : PUnit} (h : advance n s = .ok done t) :
    t = s.advance n := by
  have run : advance n s = if s.pos + n ≤ s.line.size then .ok ⟨⟩ (s.advance n)
      else .error .outside s := rfl
  rw [run] at h
  split at h
  next =>
    cases h
    rfl
  next => cases h

theorem next_eq_ok {c : Char} (h : next s = .ok (some c) t) : s.next = .ok (some c) t := by
  cases seen : peek s with
  | error stop u => simp [next, bind, EStateM.bind, seen] at h
  | ok d u =>
    cases d with
    | none => simp [next, bind, EStateM.bind, seen, pure, EStateM.pure] at h
    | some d =>
      cases moved : advance 1 u with
      | error stop v => simp [next, bind, EStateM.bind, seen, moved] at h
      | ok done v =>
        simp only [next, bind, EStateM.bind, seen, moved, Option.isSome_some, ↓reduceIte] at h
        cases h
        rw [advance_eq_ok moved]
        exact Source.next_of_peek (peek_eq_ok seen)

/-- Takes characters up to the first that is not blank, which it answers. -/
def nextNonBlank (s : Source) : EStateM.Result Stop Source (Option Char) :=
  match _taken : next s with
  | .ok (some c) rest => if isWhitespace c then nextNonBlank rest else .ok (some c) rest
  | .ok none rest => .ok none rest
  | .error stop rest => .error stop rest
termination_by s.unread.length
decreasing_by simp [Source.unread_of_next (next_eq_ok _taken)]

/-- Takes characters as long as they pass a test. -/
def takeWhile (test : Char → Bool) (s : Source) : EStateM.Result Stop Source (List Char) :=
  match _seen : peek s with
  | .ok (some c) here =>
    if test c then
      match _moved : advance 1 here with
      | .ok _ behind =>
        match takeWhile test behind with
        | .ok taken rest => .ok (c :: taken) rest
        | .error stop rest => .error stop rest
      | .error stop behind => .error stop behind
    else .ok [] here
  | .ok none here => .ok [] here
  | .error stop here => .error stop here
termination_by s.unread.length
decreasing_by
  rw [advance_eq_ok _moved]
  simp [Source.unread_of_peek (peek_eq_ok _seen)]

/-- Takes characters up to and including `target`. -/
def skipThrough (target : Char) (skipped : Nat) (s : Source) :
    EStateM.Result Stop Source (Bool × Nat) :=
  match _taken : next s with
  | .ok (some c) rest =>
    if c = target then .ok (true, skipped) rest else skipThrough target (skipped + 1) rest
  | .ok none rest => .ok (false, skipped) rest
  | .error stop rest => .error stop rest
termination_by s.unread.length
decreasing_by simp [Source.unread_of_next (next_eq_ok _taken)]

theorem nextNonBlank_eq (s : Source) : nextNonBlank s =
    match next s with
    | .ok (some c) rest => if isWhitespace c then nextNonBlank rest else .ok (some c) rest
    | .ok none rest => .ok none rest
    | .error stop rest => .error stop rest := by
  rw [nextNonBlank]
  split
  next taken => rw [taken]
  next taken => rw [taken]
  next taken => rw [taken]

theorem skipThrough_eq (target : Char) (skipped : Nat) (s : Source) :
    skipThrough target skipped s =
      match next s with
      | .ok (some c) rest =>
        if c = target then .ok (true, skipped) rest else skipThrough target (skipped + 1) rest
      | .ok none rest => .ok (false, skipped) rest
      | .error stop rest => .error stop rest := by
  rw [skipThrough]
  split
  next taken => rw [taken]
  next taken => rw [taken]
  next taken => rw [taken]

theorem takeWhile_eq (test : Char → Bool) (s : Source) : takeWhile test s =
    match peek s with
    | .ok (some c) here =>
      if test c then
        match advance 1 here with
        | .ok _ behind =>
          match takeWhile test behind with
          | .ok taken rest => .ok (c :: taken) rest
          | .error stop rest => .error stop rest
        | .error stop behind => .error stop behind
      else .ok [] here
    | .ok none here => .ok [] here
    | .error stop here => .error stop here := by
  rw [takeWhile]
  split
  next c here seen =>
    rw [seen]
    dsimp only
    split
    next =>
      split
      next moved => rw [moved]
      next moved => rw [moved]
    next => rfl
  next seen => rw [seen]
  next seen => rw [seen]

/-- Takes a point and the digits behind it, if there is a point. -/
def fractionPart : Watched (List Char) := do
  if (← peek) = some '.' then
    advance 1
    let digits ← takeWhile Char.isDigit
    return '.' :: digits
  else return []

/-- Takes an exponent if there is a whole one. It is looked for in the line only, where a place that
is not there shows nothing. -/
def exponentPart : Watched (List Char) := do
  match ← peek with
  | none => return []
  | some marker =>
    let s ← get
    let sign := (s.ahead 1).filter fun c => c = '+' ∨ c = '-'
    let lead := marker :: sign.toList
    if (marker = 'e' ∨ marker = 'E') ∧ (s.ahead lead.length).any Char.isDigit then
      advance lead.length
      let digits ← takeWhile Char.isDigit
      return lead ++ digits
    else return []

def literal : Watched (List Char) := do
  let whole ← takeWhile Char.isDigit
  let fraction ← fractionPart
  let mantissa := whole ++ fraction
  if mantissa.any Char.isDigit then
    let exponent ← exponentPart
    return mantissa ++ exponent
  else throw (.fault (.lexical (.noDigits (.ofList mantissa))))

def number : Watched Float := do
  match Source.literalValue (← literal) with
  | .ok value => return value
  | .error cause => throw (.fault (.lexical cause))

/-- Takes the next token. -/
def token (dialect : Dialect) : Watched Token := do
  match ← nextNonBlank with
  | none => throw (.fault .endOfInput)
  | some c =>
    match Symbol.ofChar? dialect.separator c with
    | some symbol => return .punct symbol
    | none =>
      if c.isDigit ∨ c = '.' then
        putBack c
        return .number (← number)
      else if isAlphabetic c then
        let more ← takeWhile isAlphanumeric
        return dialect.word (.ofList (c :: more))
      else throw (.fault (.lexical (.badToken c)))

end Watched

namespace Source

variable {s t : Source}

theorem staysInside_nextNonBlank (inside : s.Inside) :
    s.StaysInside Watched.nextNonBlank nextNonBlank := by
  suffices Watched.nextNonBlank s = watch (nextNonBlank s) ∧ (leftBy (nextNonBlank s)).Inside from
    ⟨this.1, this.2⟩
  fun_induction nextNonBlank s with
  | case1 s c rest taken blank ih =>
    obtain ⟨run, within⟩ := (staysInside_next inside).of_ok taken
    rw [Watched.nextNonBlank_eq, run]
    dsimp only
    rw [if_pos blank]
    exact ih within
  | case2 s c rest taken dark =>
    obtain ⟨run, within⟩ := (staysInside_next inside).of_ok taken
    rw [Watched.nextNonBlank_eq, run]
    exact ⟨if_neg dark, within⟩
  | case3 s rest taken =>
    obtain ⟨run, within⟩ := (staysInside_next inside).of_ok taken
    rw [Watched.nextNonBlank_eq, run]
    exact ⟨rfl, within⟩
  | case4 s fault rest taken =>
    obtain ⟨run, within⟩ := (staysInside_next inside).of_error taken
    rw [Watched.nextNonBlank_eq, run]
    exact ⟨rfl, within⟩

theorem staysInside_skipThrough (inside : s.Inside) (target : Char) (skipped : Nat) :
    s.StaysInside (Watched.skipThrough target skipped) (skipThrough target skipped) := by
  suffices Watched.skipThrough target skipped s = watch (skipThrough target skipped s) ∧
      (leftBy (skipThrough target skipped s)).Inside from ⟨this.1, this.2⟩
  fun_induction skipThrough target skipped s with
  | case1 skipped s rest taken =>
    obtain ⟨run, within⟩ := (staysInside_next inside).of_ok taken
    rw [Watched.skipThrough_eq, run]
    exact ⟨if_pos rfl, within⟩
  | case2 skipped s c rest taken other ih =>
    obtain ⟨run, within⟩ := (staysInside_next inside).of_ok taken
    rw [Watched.skipThrough_eq, run]
    dsimp only
    rw [if_neg other]
    exact ih within
  | case3 skipped s rest taken =>
    obtain ⟨run, within⟩ := (staysInside_next inside).of_ok taken
    rw [Watched.skipThrough_eq, run]
    exact ⟨rfl, within⟩
  | case4 skipped s fault rest taken =>
    obtain ⟨run, within⟩ := (staysInside_next inside).of_error taken
    rw [Watched.skipThrough_eq, run]
    exact ⟨rfl, within⟩

theorem staysInside_takeWhile (inside : s.Inside) (test : Char → Bool) :
    s.StaysInside (Watched.takeWhile test) (takeWhile test) := by
  suffices Watched.takeWhile test s = watch (takeWhile test s) ∧
      (leftBy (takeWhile test s)).Inside from ⟨this.1, this.2⟩
  have moves {c : Char} {s here : Source} (inside : s.Inside) (seen : peek s = .ok (some c) here)
      (pass : test c = true) : (here.advance 1).Inside ∧ Watched.takeWhile test s =
        match Watched.takeWhile test (here.advance 1) with
        | .ok taken rest => .ok (c :: taken) rest
        | .error stop rest => .error stop rest := by
    have room := room_of_peek seen
    have moved : Watched.advance 1 here = .ok ⟨⟩ (here.advance 1) := if_pos room
    rw [Watched.takeWhile_eq, ((staysInside_peek inside).of_ok seen).1]
    dsimp only
    rw [if_pos pass, moved]
    exact ⟨room, rfl⟩
  fun_induction takeWhile test s with
  | case1 s c here seen pass more rest eq ih =>
    obtain ⟨room, run⟩ := moves inside seen pass
    obtain ⟨same, within⟩ := ih room
    rw [eq] at same within
    rw [run, same]
    exact ⟨rfl, within⟩
  | case2 s c here seen pass fault rest eq ih =>
    obtain ⟨room, run⟩ := moves inside seen pass
    obtain ⟨same, within⟩ := ih room
    rw [eq] at same within
    rw [run, same]
    exact ⟨rfl, within⟩
  | case3 s c here seen fails =>
    obtain ⟨run, within⟩ := (staysInside_peek inside).of_ok seen
    rw [Watched.takeWhile_eq, run]
    exact ⟨if_neg fails, within⟩
  | case4 s here seen =>
    obtain ⟨run, within⟩ := (staysInside_peek inside).of_ok seen
    rw [Watched.takeWhile_eq, run]
    exact ⟨rfl, within⟩
  | case5 s fault here seen =>
    obtain ⟨run, within⟩ := (staysInside_peek inside).of_error seen
    rw [Watched.takeWhile_eq, run]
    exact ⟨rfl, within⟩

theorem staysInside_fractionPart (inside : s.Inside) :
    s.StaysInside Watched.fractionPart fractionPart := by
  refine staysInside_bind (staysInside_peek inside) fun c t seen within => ?_
  refine staysInside_ite (fun point => ?_) fun _ => staysInside_pure within []
  subst point
  refine staysInside_bind (staysInside_advance (room_of_peek seen)) fun _ u _ inner => ?_
  refine staysInside_bind (staysInside_takeWhile inner _) fun digits v _ last => ?_
  exact staysInside_pure last _

/-- The digit that was seen ahead makes room for the marker and the sign before it. -/
theorem staysInside_exponentPart (inside : s.Inside) :
    s.StaysInside Watched.exponentPart exponentPart := by
  refine staysInside_bind (staysInside_peek inside) fun c t _ within => ?_
  cases c with
  | none => exact staysInside_pure within []
  | some marker =>
    have got : t.StaysInside (get : Watched Source) (get : Scan Source) := ⟨rfl, within⟩
    refine staysInside_bind got fun here u run inner => ?_
    cases run
    refine staysInside_ite (fun whole => ?_) fun _ => staysInside_pure inner []
    obtain ⟨d, ahead, _⟩ := (Option.any_eq_true _ _).mp whole.2
    have room := Nat.le_of_lt (Array.getElem?_eq_some_iff.mp ahead).1
    refine staysInside_bind (staysInside_advance room) fun _ v _ moved => ?_
    refine staysInside_bind (staysInside_takeWhile moved _) fun digits w _ last => ?_
    exact staysInside_pure last _

theorem staysInside_literal (inside : s.Inside) : s.StaysInside Watched.literal literal := by
  refine staysInside_bind (staysInside_takeWhile inside _) fun whole t _ within => ?_
  refine staysInside_bind (staysInside_fractionPart within) fun fraction u _ inner => ?_
  refine staysInside_ite (fun _ => ?_) fun _ => staysInside_throw inner _
  refine staysInside_bind (staysInside_exponentPart inner) fun exponent v _ last => ?_
  exact staysInside_pure last _

/-- Reading a number moves to no place outside the line, and looks up none. -/
theorem staysInside_number (inside : s.Inside) : s.StaysInside Watched.number number := by
  refine staysInside_bind (staysInside_literal inside) fun text t _ within => ?_
  cases literalValue text with
  | ok value => exact staysInside_pure within value
  | error cause => exact staysInside_throw within _

theorem staysInside_token (inside : s.Inside) (dialect : Dialect) :
    s.StaysInside (Watched.token dialect) (token dialect) := by
  refine staysInside_bind (staysInside_nextNonBlank inside) fun c t _ within => ?_
  cases c with
  | none => exact staysInside_throw within _
  | some c =>
    dsimp only [tokenFrom]
    cases Symbol.ofChar? dialect.separator c with
    | some symbol => exact staysInside_pure within _
    | none =>
      refine staysInside_ite (fun _ => ?_) fun _ => ?_
      · refine staysInside_bind (staysInside_putBack within c) fun _ u _ inner => ?_
        refine staysInside_bind (staysInside_number inner) fun value v _ last => ?_
        exact staysInside_pure last _
      · refine staysInside_ite (fun _ => ?_) fun _ => staysInside_throw within _
        refine staysInside_bind (staysInside_takeWhile within _) fun more u _ inner => ?_
        exact staysInside_pure inner _

end Source

end Calculator
