import Calculator.Proofs.FaultCauses
import Calculator.Proofs.WorkableDialects

namespace Calculator

theorem newline_of_mem_encodeUtf8 {text : String} (h : 10 ∈ encodeUtf8 text) :
    '\n' ∈ text.toList := by
  obtain ⟨front, rest, cut⟩ := List.append_of_mem h
  rw [← decodeLossy_encodeUtf8 text, cut, decodeLossy_line]
  exact List.mem_append_right _ List.mem_cons_self

/-- A text of one line is ended by the only newline that is written. -/
theorem count_newline_encodeUtf8 {text : String} (oneLine : '\n' ∉ text.toList) :
    (encodeUtf8 (text ++ "\n")).count 10 = 1 := by
  have noNewline : (encodeUtf8 text).count 10 = 0 :=
    List.count_eq_zero.mpr fun listed => oneLine (newline_of_mem_encodeUtf8 listed)
  rw [encodeUtf8_append, List.count_append, noNewline]
  decide

/-- The message of a fault is one line. -/
def Fault.OneLine (fault : Fault) : Prop := '\n' ∉ fault.message.toList

theorem NameFault.oneLine {cause : NameFault} {subject : String}
    (inner : '\n' ∉ subject.toList) : (Fault.name cause subject).OneLine := by
  have fixed : '\n' ∉ (cause.message ++ ": ").toList := by
    cases cause <;> decide
  unfold Fault.OneLine Fault.message
  rw [String.toList_append]
  exact List.not_mem_append fixed inner

theorem ne_newline_of_numeral {text : List Char} (numeral : Numeral text) : '\n' ∉ text := by
  intro listed
  rcases numeral.mem listed with letter | reserved
  · exact absurd letter (by decide)
  · exact absurd reserved (by decide)

theorem ne_newline_of_wordRun {lexeme rest : List Char} (run : WordRun lexeme rest) :
    '\n' ∉ lexeme := fun listed => absurd (run.mem listed) (by decide)

/-- An item of a script that brings no newline into a message. -/
def OneLine : Except Fault Token → Prop
  | .error fault => fault.OneLine
  | .ok (.identifier name) => '\n' ∉ name.toList
  | .ok _ => True

/-- A message around a part of the text is one line if the part is. -/
theorem oneLine_around {front part rest : String} (first : '\n' ∉ front.toList)
    (inner : '\n' ∉ part.toList) (last : '\n' ∉ rest.toList) :
    '\n' ∉ (front ++ part ++ rest).toList := by
  rw [String.toList_append, String.toList_append]
  exact List.not_mem_append (List.not_mem_append first inner) last

theorem Lexeme.oneLine {dialect : Dialect} {lexeme rest : List Char}
    {result : Except Fault Token} (h : Lexeme dialect lexeme rest result) : OneLine result := by
  cases h with
  | outOfRange longest stands infinite =>
    refine oneLine_around (by decide) ?_ (by decide)
    rw [String.toList_ofList]
    exact ne_newline_of_numeral longest.2.1
  | lonePoint alone =>
    unfold OneLine Fault.OneLine
    decide
  | identifier run noDeclare noQuit =>
    simp only [OneLine, String.toList_ofList]
    exact ne_newline_of_wordRun run
  | @badToken c _ noBlank =>
    refine oneLine_around (by decide) ?_ (by decide)
    rw [Char.toString, String.toList_singleton]
    intro listed
    rw [← List.mem_singleton.mp listed] at noBlank
    cases noBlank
  | _ => exact True.intro

theorem Segmented.oneLine {dialect : Dialect} {text : List Char}
    {lexemes : List (List Char × Except Fault Token)} (h : Segmented dialect text lexemes) :
    ∀ item ∈ lexemes.map Prod.snd, OneLine item := by
  induction h with
  | done => exact List.forall_mem_nil _
  | next blank here further ih => exact List.forall_mem_cons.mpr ⟨here.oneLine, ih⟩

theorem scriptOf_oneLine {dialect : Dialect} (usable : dialect.Usable) (bytes : List UInt8) :
    ∀ item ∈ scriptOf dialect bytes, OneLine item := by
  obtain ⟨lexemes, cut⟩ := exists_segmented usable (decodeLossy bytes)
  rw [scriptOf_segmented usable cut]
  exact cut.oneLine

namespace Script

variable {script : Script} {fault : Fault}

theorem Fails.oneLine (h : script.Fails fault) (plain : ∀ item ∈ script, OneLine item) :
    fault.OneLine := by
  cases h with
  | ended =>
    unfold Fault.OneLine
    decide
  | listed mem => exact plain _ mem
  | refused mem refusal =>
    cases refusal with
    | unknown same =>
      subst same
      exact NameFault.oneLine (plain _ mem)
    | _ =>
      unfold Fault.OneLine
      decide

theorem Blames.oneLine (h : script.Blames fault) (plain : ∀ item ∈ script, OneLine item) :
    fault.OneLine := by
  cases h with
  | expression fails => exact fails.oneLine plain
  | declaredTwice mem => exact NameFault.oneLine (plain _ mem)
  | _ =>
    unfold Fault.OneLine
    decide

end Script

/-- What is announced and left of a script has its reasons in the script. -/
structure Owes (script : Script) (announced : List Announcement) (rest : Script) : Prop where
  rest : rest ⊆ script
  fault : ∀ fault, .fault fault ∈ announced → fault.recoverable = true ∧ script.Blames fault

theorem Owes.quiet {script rest : Script} (part : rest ⊆ script) : Owes script [] rest :=
  ⟨part, fun _ listed => by cases listed⟩

theorem Owes.append {script rest last : Script} {first second : List Announcement}
    (h : Owes script first rest) (g : Owes rest second last) :
    Owes script (first ++ second) last := by
  refine ⟨fun _ mem => h.rest (g.rest mem), fun fault listed => ?_⟩
  rcases List.mem_append.mp listed with early | late
  · exact h.fault fault early
  · obtain ⟨recoverable, blamed⟩ := g.fault fault late
    exact ⟨recoverable, blamed.mono h.rest⟩

namespace ScriptSession

variable {s : ScriptSession}

theorem owes_recover {script rest : Script} {fault : Fault} (part : rest ⊆ script)
    (recoverable : fault.recoverable = true) (blamed : script.Blames fault) :
    Owes script (s.recover fault rest).announced (s.recover fault rest).session.script := by
  have reason : ∀ other, .fault other ∈ [Announcement.fault fault] →
      other.recoverable = true ∧ script.Blames other := by
    intro other listed
    cases List.mem_singleton.mp listed
    exact ⟨recoverable, blamed⟩
  unfold recover
  dsimp only
  split
  next => exact ⟨fun _ mem => part (Script.dropThroughSeparator_subset rest mem), reason⟩
  next => exact ⟨part, reason⟩

theorem owes_conclude {script : Script} {statement : Reading Evaluated}
    (keeps : statement.Keeps script script.Blames) :
    Owes script (s.conclude statement).announced (s.conclude statement).session.script := by
  unfold conclude
  split
  next evaluated _ =>
    refine ⟨keeps.rest, fun fault listed => ?_⟩
    cases List.mem_singleton.mp listed
  next fault failed =>
    split
    next recoverable => exact owes_recover keeps.rest recoverable (keeps.fault fault failed)
    next => exact .quiet keeps.rest

theorem owes_answer (s : ScriptSession) :
    Owes s.script s.answer.announced s.answer.session.script := by
  have first := Script.keeps_firstToken s.script
  unfold answer answerTo
  split
  next => exact .quiet first.rest
  next => exact .quiet first.rest
  next => exact owes_conclude (Script.keeps_statementAt s.table s.script)

theorem owes_turn (s : ScriptSession) : Owes s.script s.turn.announced s.turn.session.script := by
  unfold turn
  dsimp only
  split
  next => exact owes_answer { s with out := (s.out.write s.settings.prompt).sink }
  next => exact .quiet (List.Subset.refl _)

/-- Every fault that a run reports is one that a session goes on after, and has its reason in the
script. -/
theorem owes_runFrom (s : ScriptSession) (evaluated failed : Nat) :
    Owes s.script (s.runFrom evaluated failed).announced
      (s.runFrom evaluated failed).session.script := by
  have first := owes_turn s
  rw [runFrom_eq]
  cases h : s.turn.how with
  | evaluated =>
    have less := length_turn (Or.inl h)
    exact first.append (owes_runFrom s.turn.session (evaluated + 1) failed)
  | failed =>
    have less := length_turn (Or.inr h)
    exact first.append (owes_runFrom s.turn.session evaluated (failed + 1))
  | finished ending => exact first
  | broken fault => exact first
termination_by s.script.length

theorem owes_runs {n : Nat} {s : ScriptSession} {report : ScriptReport}
    (h : report ∈ s.runs n) : ∀ fault, .fault fault ∈ report.announced →
      fault.recoverable = true ∧ s.script.Blames fault := by
  induction n generalizing s with
  | zero => cases h
  | succ n ih =>
    have first := owes_runFrom s 0 0
    rcases List.mem_cons.mp h with rfl | later
    · exact first.fault
    · intro fault listed
      obtain ⟨recoverable, blamed⟩ := ih later fault listed
      exact ⟨recoverable, blamed.mono first.rest⟩

end ScriptSession

/-- No message that a session writes has a newline, and every one reports a fault that the session
goes on after. -/
theorem Session.oneLine_of_mem_runs {s : Session} {bytes : List UInt8} {n : Nat} {report : Report}
    (ready : s.tokens.Ready s.settings.dialect)
    (read : s.tokens.stream = scriptOf s.settings.dialect bytes) (listed : report ∈ s.runs n)
    {fault : Fault} (told : .fault fault ∈ announcements report.trace) :
    fault.recoverable = true ∧ fault.OneLine := by
  have scripted : report.scripted ∈ s.scripted.runs n := by
    rw [← scripted_runs n ready]
    exact List.mem_map_of_mem listed
  obtain ⟨recoverable, blamed⟩ := ScriptSession.owes_runs scripted fault told
  refine ⟨recoverable, blamed.oneLine ?_⟩
  rw [show s.scripted.script = _ from read]
  exact scriptOf_oneLine ready.usable bytes

end Calculator
