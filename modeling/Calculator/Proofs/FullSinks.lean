import Calculator.Proofs.Findings

namespace Calculator

theorem Sink.write_of_le {room : Nat} {text : String} (fits : (encodeUtf8 text).length ≤ room) :
    (⟨some room⟩ : Sink).write text =
      ⟨encodeUtf8 text, ⟨some (room - (encodeUtf8 text).length)⟩, true⟩ := by
  simp only [write, List.take_of_length_le fits, fits, decide_true]

theorem Sink.write_of_lt {room : Nat} {text : String} (short : room < (encodeUtf8 text).length) :
    (⟨some room⟩ : Sink).write text = ⟨(encodeUtf8 text).take room, ⟨some 0⟩, false⟩ := by
  have beyond : ¬(encodeUtf8 text).length ≤ room := by omega
  simp only [write, beyond, decide_false, Nat.sub_eq_zero_of_le (Nat.le_of_lt short)]

/-- The session with room for so many bytes in each of its sinks. -/
def Session.limited (outRoom errRoom : Nat) (s : Session) : Session :=
  { s with out := ⟨some outRoom⟩, err := ⟨some errRoom⟩ }

/-- What two sinks kept of what was written to them, when one of them had no room for all of it. -/
structure CutOff (outRoom errRoom : Nat) (wholeOut wholeErr out err : List UInt8) : Prop where
  outPart : out <+: wholeOut
  errPart : err <+: wholeErr
  filled : out.length = outRoom ∧ outRoom < wholeOut.length ∨
    err.length = errRoom ∧ errRoom < wholeErr.length

theorem CutOff.mono {outRoom errRoom : Nat} {wholeOut wholeErr longerOut longerErr out err :
    List UInt8} (cut : CutOff outRoom errRoom wholeOut wholeErr out err)
    (outGrows : wholeOut <+: longerOut) (errGrows : wholeErr <+: longerErr) :
    CutOff outRoom errRoom longerOut longerErr out err := by
  have outLength := outGrows.length_le
  have errLength := errGrows.length_le
  refine ⟨cut.outPart.trans outGrows, cut.errPart.trans errGrows, ?_⟩
  rcases cut.filled with ⟨full, short⟩ | ⟨full, short⟩
  · exact Or.inl ⟨full, by omega⟩
  · exact Or.inr ⟨full, by omega⟩

/-- What fitted before counts as well. -/
theorem CutOff.after {outRoom errRoom : Nat} {firstOut firstErr wholeOut wholeErr out err :
    List UInt8}
    (cut : CutOff (outRoom - firstOut.length) (errRoom - firstErr.length) wholeOut wholeErr out err)
    (outFits : firstOut.length ≤ outRoom) (errFits : firstErr.length ≤ errRoom) :
    CutOff outRoom errRoom (firstOut ++ wholeOut) (firstErr ++ wholeErr) (firstOut ++ out)
      (firstErr ++ err) := by
  refine ⟨(List.prefix_append_right_inj _).mpr cut.outPart,
    (List.prefix_append_right_inj _).mpr cut.errPart, ?_⟩
  simp only [List.length_append]
  rcases cut.filled with ⟨full, short⟩ | ⟨full, short⟩
  · exact Or.inl ⟨by omega, by omega⟩
  · exact Or.inr ⟨by omega, by omega⟩

theorem cutOff_out {room : Nat} {text : List UInt8} (errRoom : Nat) (short : room < text.length) :
    CutOff room errRoom text [] (text.take room) [] := by
  refine ⟨List.take_prefix _ _, List.prefix_refl _, Or.inl ⟨?_, short⟩⟩
  rw [List.length_take]
  omega

theorem cutOff_err {room : Nat} {text : List UInt8} (outRoom : Nat) (short : room < text.length) :
    CutOff outRoom room [] text [] (text.take room) := by
  refine ⟨List.prefix_refl _, List.take_prefix _ _, Or.inr ⟨?_, short⟩⟩
  rw [List.length_take]
  omega

/-- There is room for all that a turn writes, and it is the same turn. -/
structure Turn.Fits (outRoom errRoom : Nat) (free tight : Turn) : Prop where
  out : free.out.length ≤ outRoom
  err : free.err.length ≤ errRoom
  same : tight = { free with
    session := free.session.limited (outRoom - free.out.length) (errRoom - free.err.length) }

/-- A turn is broken off because a sink is full. -/
structure Turn.Overflows (outRoom errRoom : Nat) (free tight : Turn) : Prop where
  how : tight.how = .broken Sink.full
  cut : CutOff outRoom errRoom free.out free.err tight.out tight.err
  table : tight.session.table.entries <+: free.session.table.entries

namespace Session

variable {s : Session} {outRoom errRoom : Nat}

theorem limited_tell (wide : s.Wide) (outRoom errRoom : Nat) (found : Found) :
    (s.tell found).Fits outRoom errRoom ((s.limited outRoom errRoom).tell found) ∨
      (s.tell found).Overflows outRoom errRoom ((s.limited outRoom errRoom).tell found) := by
  obtain ⟨finding, tokens, trace⟩ := found
  cases finding with
  | value evaluated =>
    rw [wide.tell_value]
    by_cases fits : ((Announcement.value evaluated.value).shown s.settings.resultMarker).length ≤
        outRoom
    · refine Or.inl ⟨fits, Nat.zero_le _, ?_⟩
      simp only [tell, showValue, limited, Sink.write_of_le fits]
      rfl
    · have short := Nat.lt_of_not_le fits
      simp only [tell, showValue, limited, Sink.write_of_lt short]
      exact Or.inr ⟨rfl, cutOff_out errRoom short, List.prefix_refl _⟩
  | mistake fault =>
    rw [wide.tell_mistake]
    by_cases fits : (Announcement.fault fault).told.length ≤ errRoom
    · refine Or.inl ⟨Nat.zero_le _, fits, ?_⟩
      simp only [tell, recover, limited, Sink.write_of_le fits]
      rfl
    · have short := Nat.lt_of_not_le fits
      simp only [tell, recover, limited, Sink.write_of_lt short]
      exact Or.inr ⟨rfl, cutOff_err outRoom short, List.prefix_refl _⟩
  | ending ending => exact Or.inl ⟨Nat.zero_le _, Nat.zero_le _, rfl⟩
  | failure fault => exact Or.inl ⟨Nat.zero_le _, Nat.zero_le _, rfl⟩

/-- With room for the prompt, a turn fits or overflows as what it tells does. -/
theorem limited_turn_of_le (wide : s.Wide)
    (fits : (encodeUtf8 s.settings.prompt).length ≤ outRoom) :
    s.turn.Fits outRoom errRoom (s.limited outRoom errRoom).turn ∨
      s.turn.Overflows outRoom errRoom (s.limited outRoom errRoom).turn := by
  have written := Sink.write_of_le fits
  have tight : (s.limited outRoom errRoom).turn =
      let told := (s.limited (outRoom - (encodeUtf8 s.settings.prompt).length) errRoom).tell
        (s.tokens.find s.table)
      { told with out := encodeUtf8 s.settings.prompt ++ told.out } := by
    have prompted : ((s.limited outRoom errRoom).out.write s.settings.prompt).complete = true :=
      congrArg Written.complete written
    rw [turn_eq_tell prompted]
    simp only [Session.prompted, limited, written]
  rw [wide.turn_eq, tight]
  rcases limited_tell wide (outRoom - (encodeUtf8 s.settings.prompt).length) errRoom
    (s.tokens.find s.table) with told | told
  · have room := told.out
    refine Or.inl ⟨?_, told.err, ?_⟩
    · rw [List.length_append]
      omega
    · rw [told.same, List.length_append, ← Nat.sub_sub]
  · have cut : CutOff outRoom errRoom (encodeUtf8 s.settings.prompt ++ _) ([] ++ _)
        (encodeUtf8 s.settings.prompt ++ _) ([] ++ _) := told.cut.after fits (Nat.zero_le _)
    exact Or.inr ⟨told.how, cut, told.table⟩

theorem limited_turn_of_lt (wide : s.Wide) (errRoom : Nat)
    (short : outRoom < (encodeUtf8 s.settings.prompt).length) :
    s.turn.Overflows outRoom errRoom (s.limited outRoom errRoom).turn := by
  have tight : (s.limited outRoom errRoom).turn =
      { how := .broken Sink.full
        session := s.limited 0 errRoom
        out := (encodeUtf8 s.settings.prompt).take outRoom } := by
    simp only [turn, limited, Sink.write_of_lt short, Bool.false_eq_true, ↓reduceIte]
  rw [tight]
  refine ⟨rfl, (cutOff_out errRoom short).mono ?_ (List.nil_prefix), prefix_turn s⟩
  rw [wide.turn_eq]
  exact List.prefix_append _ _

theorem limited_turn (wide : s.Wide) (outRoom errRoom : Nat) :
    s.turn.Fits outRoom errRoom (s.limited outRoom errRoom).turn ∨
      s.turn.Overflows outRoom errRoom (s.limited outRoom errRoom).turn := by
  rcases Nat.lt_or_ge outRoom (encodeUtf8 s.settings.prompt).length with short | fits
  · exact Or.inr (limited_turn_of_lt wide errRoom short)
  · exact limited_turn_of_le wide fits

theorem out_prefix_runFrom (s : Session) (evaluated failed : Nat) :
    s.turn.out <+: (s.runFrom evaluated failed).out ∧
      s.turn.err <+: (s.runFrom evaluated failed).err := by
  rw [runFrom_eq]
  cases s.turn.how with
  | evaluated => exact ⟨List.prefix_append _ _, List.prefix_append _ _⟩
  | failed => exact ⟨List.prefix_append _ _, List.prefix_append _ _⟩
  | finished ending => exact ⟨List.prefix_refl _, List.prefix_refl _⟩
  | broken fault => exact ⟨List.prefix_refl _, List.prefix_refl _⟩

theorem table_prefix_runFrom (s : Session) (evaluated failed : Nat) :
    s.turn.session.table.entries <+: (s.runFrom evaluated failed).session.table.entries := by
  have last : s.turn.session.table.entries <+: s.turn.session.table.entries := List.prefix_refl _
  rw [runFrom_eq]
  cases s.turn.how with
  | evaluated => exact (visits_runFrom s.turn.session _ _).grows
  | failed => exact (visits_runFrom s.turn.session _ _).grows
  | finished ending => exact last
  | broken fault => exact last

end Session

/-- There is room for all that a run writes, and it is the same run. -/
structure Report.Fits (outRoom errRoom : Nat) (free tight : Report) : Prop where
  out : free.out.length ≤ outRoom
  err : free.err.length ≤ errRoom
  same : tight = { free with
    session := free.session.limited (outRoom - free.out.length) (errRoom - free.err.length) }

/-- A run is broken off because a sink is full. -/
structure Report.Overflows (outRoom errRoom : Nat) (free tight : Report) : Prop where
  result : tight.result = .error Sink.full
  cut : CutOff outRoom errRoom free.out free.err tight.out tight.err
  table : tight.session.table.entries <+: free.session.table.entries

/-- What follows a turn that fits decides. -/
theorem Report.fits_or_overflows_after {outRoom errRoom : Nat} {free tight : Report}
    {turn other : Turn} (fits : turn.Fits outRoom errRoom other)
    (h : free.Fits (outRoom - turn.out.length) (errRoom - turn.err.length) tight ∨
      free.Overflows (outRoom - turn.out.length) (errRoom - turn.err.length) tight) :
    (free.after turn).Fits outRoom errRoom (tight.after other) ∨
      (free.after turn).Overflows outRoom errRoom (tight.after other) := by
  have outFits := fits.out
  have errFits := fits.err
  rw [fits.same]
  rcases h with more | more
  · have outMore := more.out
    have errMore := more.err
    refine Or.inl ⟨?_, ?_, ?_⟩
    · simp only [after, List.length_append]
      omega
    · simp only [after, List.length_append]
      omega
    · simp only [after, more.same, List.length_append, Nat.sub_sub]
  · exact Or.inr ⟨more.result, more.cut.after outFits errFits, more.table⟩

namespace Session

/-- A run with limited sinks is the run with unlimited ones, as far as there is room. -/
theorem limited_runFrom {s : Session} (wide : s.Wide) (outRoom errRoom evaluated failed : Nat) :
    (s.runFrom evaluated failed).Fits outRoom errRoom
        ((s.limited outRoom errRoom).runFrom evaluated failed) ∨
      (s.runFrom evaluated failed).Overflows outRoom errRoom
        ((s.limited outRoom errRoom).runFrom evaluated failed) := by
  rcases limited_turn wide outRoom errRoom with fits | overflows
  · rw [runFrom_eq s, runFrom_eq (s.limited outRoom errRoom)]
    have how : (s.limited outRoom errRoom).turn.how = s.turn.how := by rw [fits.same]
    have left : (s.limited outRoom errRoom).turn.session =
        s.turn.session.limited (outRoom - s.turn.out.length) (errRoom - s.turn.err.length) := by
      rw [fits.same]
    rw [how, left]
    cases ends : s.turn.how with
    | evaluated =>
      have less := size_turn (Or.inl ends)
      exact Report.fits_or_overflows_after fits (limited_runFrom wide.turn _ _ _ _)
    | failed =>
      have less := size_turn (Or.inr ends)
      exact Report.fits_or_overflows_after fits (limited_runFrom wide.turn _ _ _ _)
    | finished ending => exact Or.inl ⟨fits.out, fits.err, by rw [fits.same]⟩
    | broken fault => exact Or.inl ⟨fits.out, fits.err, by rw [fits.same]⟩
  · obtain ⟨outGrows, errGrows⟩ := out_prefix_runFrom s evaluated failed
    have tight := runFrom_eq (s.limited outRoom errRoom) evaluated failed
    rw [overflows.how] at tight
    rw [tight]
    exact Or.inr ⟨rfl, overflows.cut.mono outGrows errGrows,
      overflows.table.trans (table_prefix_runFrom s evaluated failed)⟩
termination_by s.tokens.size

end Session

/-- A run with room for so many bytes in each sink, beside the run with room for everything. -/
structure Report.Truncates (outLimit errLimit : Nat) (free tight : Report) : Prop where
  returns : ∃ outcome, free.result = .ok outcome
  returns_iff : (∃ outcome, tight.result = .ok outcome) ↔
    free.out.length ≤ outLimit ∧ free.err.length ≤ errLimit
  whole : free.out.length ≤ outLimit ∧ free.err.length ≤ errLimit →
    tight.result = free.result ∧ tight.out = free.out ∧ tight.err = free.err ∧
      tight.session.table = free.session.table
  part : ¬(free.out.length ≤ outLimit ∧ free.err.length ≤ errLimit) →
    tight.result = .error Sink.full ∧ tight.out <+: free.out ∧ tight.err <+: free.err ∧
      (tight.out.length = outLimit ∧ outLimit < free.out.length ∨
        tight.err.length = errLimit ∧ errLimit < free.err.length) ∧
      tight.session.table.entries <+: free.session.table.entries

namespace Report

variable {outLimit errLimit : Nat} {free tight : Report} {outcome : Outcome}

theorem Fits.truncates (fits : free.Fits outLimit errLimit tight)
    (ended : free.result = .ok outcome) : free.Truncates outLimit errLimit tight := by
  have room : free.out.length ≤ outLimit ∧ free.err.length ≤ errLimit := ⟨fits.out, fits.err⟩
  rw [fits.same]
  exact {
    returns := ⟨outcome, ended⟩
    returns_iff := ⟨fun _ => room, fun _ => ⟨outcome, ended⟩⟩
    whole := fun _ => ⟨rfl, rfl, rfl, rfl⟩
    part := fun short => absurd room short }

theorem Overflows.truncates (overflows : free.Overflows outLimit errLimit tight)
    (ended : free.result = .ok outcome) : free.Truncates outLimit errLimit tight := by
  have filled := overflows.cut.filled
  have short : ¬(free.out.length ≤ outLimit ∧ free.err.length ≤ errLimit) := by omega
  refine ⟨⟨outcome, ended⟩, ⟨?_, fun room => absurd room short⟩, fun room => absurd room short,
    fun _ => ?_⟩
  · rintro ⟨other, returned⟩
    cases returned.symm.trans overflows.result
  · exact ⟨overflows.result, overflows.cut.outPart, overflows.cut.errPart, filled,
      overflows.table⟩

end Report

/-- A full sink cuts a run off and changes nothing else: with room for all that a run writes it is
the same run, and otherwise it is broken off where a sink is full, with the first part of what it
would have written and of the table that it would have left. -/
theorem full_sink_only_truncates {settings : Settings}
    (accepted : settings.dialect.check = .ok ()) (bytes : List UInt8) (outLimit errLimit : Nat) :
    ∃ free tight, Session.start settings (.ofBytes bytes none) .unlimited .unlimited = .ok free ∧
      Session.start settings (.ofBytes bytes none) ⟨some outLimit⟩ ⟨some errLimit⟩ = .ok tight ∧
      free.run.Truncates outLimit errLimit tight.run := by
  refine ⟨_, _, Session.start_eq accepted _ _ _, Session.start_eq accepted _ _ _, ?_⟩
  have wide : Session.Wide ⟨settings, .ofSource settings.dialect (.ofBytes bytes none),
      if settings.withConstants then .withConstants else .empty, .unlimited, .unlimited⟩ :=
    ⟨rfl, rfl⟩
  obtain ⟨outcome, ended⟩ := wide.run_ok rfl
  rcases Session.limited_runFrom wide outLimit errLimit 0 0 with fits | overflows
  · exact Report.Fits.truncates fits ended
  · exact Report.Overflows.truncates overflows ended

/-- A sink with room for one byte cuts the first prompt in two. -/
theorem full_sink_only_truncates_prompt : Dialect.check {} = .ok () ∧
    ∃ free tight, Session.start {} (.ofBytes (encodeUtf8 "let a=pi;") none) .unlimited .unlimited =
        .ok free ∧
      Session.start {} (.ofBytes (encodeUtf8 "let a=pi;") none) ⟨some 1⟩ ⟨some 5⟩ = .ok tight ∧
      1 < free.run.out.length ∧ tight.run.result = .error Sink.full ∧
      tight.run.out <+: free.run.out := by
  obtain ⟨free, tight, started, limited, truncates⟩ :=
    @full_sink_only_truncates {} rfl (encodeUtf8 "let a=pi;") 1 5
  obtain ⟨wide, settings⟩ : free.Wide ∧ free.settings = {} := by
    rw [Session.start_eq rfl] at started
    cases started
    exact ⟨⟨rfl, rfl⟩, rfl⟩
  have long : 1 < free.run.out.length := by
    have written := (Session.out_prefix_runFrom free 0 0).1
    rw [wide.turn_eq, settings] at written
    exact Nat.lt_of_lt_of_le (by decide) ((List.prefix_append _ _).trans written).length_le
  obtain ⟨broken, part, _⟩ := truncates.part fun room => absurd room.1 (Nat.not_le.mpr long)
  exact ⟨rfl, free, tight, started, limited, long, broken, part⟩

end Calculator
