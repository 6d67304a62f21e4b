import Calculator.Proofs.JoinedTexts
import Calculator.Proofs.SeparatedRuns

namespace Calculator

/-- A session over some bytes that starts with a table and whose sinks take everything. -/
def Session.overBytes (settings : Settings) (table : SymbolTable) (bytes : List UInt8) : Session :=
  ⟨settings, .ofSource settings.dialect (.ofBytes bytes none), table, .unlimited, .unlimited⟩

/-- A session over the tokens of some bytes. -/
def ScriptSession.ofBytes (settings : Settings) (table : SymbolTable) (bytes : List UInt8) :
    ScriptSession :=
  ⟨settings, scriptOf settings.dialect bytes, table, .unlimited, .unlimited⟩

theorem Session.run_overBytes {settings : Settings} (accepted : settings.dialect.check = .ok ())
    (table : SymbolTable) (bytes : List UInt8) :
    (overBytes settings table bytes).run.scripted =
      (ScriptSession.ofBytes settings table bytes).run :=
  (scripted_runFrom (s := overBytes settings table bytes)
    (Tokenizer.ready_ofBytes accepted bytes) 0 0).1

namespace ScriptSession

theorem withScript_eq_ofBytes {s : ScriptSession} {settings : Settings} {table : SymbolTable}
    (free : s.Free) (same : s.settings = settings) (left : s.table = table) (bytes : List UInt8) :
    s.withScript (scriptOf settings.dialect bytes) = ofBytes settings table bytes := by
  cases s
  obtain ⟨rfl, rfl⟩ := free
  cases same
  cases left
  rfl

variable {settings : Settings} (usable : settings.dialect.Usable) (table : SymbolTable)
include usable

theorem complete_ofBytes (a : List UInt8) : Script.Complete (ofBytes settings table
    (a ++ encodeUtf8 (String.singleton settings.dialect.separator))).script := by
  rw [ofBytes, scriptOf_closed usable]
  exact Script.complete_append_separator (scriptOf_clean usable a)

theorem ofBytes_append (a b : List UInt8) :
    ofBytes settings table
        (a ++ encodeUtf8 (String.singleton settings.dialect.separator) ++ b) =
      (ofBytes settings table
        (a ++ encodeUtf8 (String.singleton settings.dialect.separator))).withScript
        (scriptOf settings.dialect
          (a ++ encodeUtf8 (String.singleton settings.dialect.separator)) ++
            scriptOf settings.dialect b) := by
  have joined := scriptOf_append_separator usable a b
  rw [scriptOf_closed usable, ofBytes, encodeUtf8_singleton, List.append_assoc, joined,
    List.append_assoc]
  rfl

end ScriptSession

/-- A session composes at separators: behind a separator, a run goes on as one over the rest of the
text alone that starts with the table that was left. -/
theorem run_composes_at_separators {settings : Settings}
    (accepted : settings.dialect.check = .ok ()) (table : SymbolTable) (a b : List UInt8) :
    let separator := encodeUtf8 (String.singleton settings.dialect.separator)
    let first := (Session.overBytes settings table (a ++ separator)).run
    let whole := (Session.overBytes settings table (a ++ separator ++ b)).run
    let second := (Session.overBytes settings first.session.table b).run
    (∃ evaluated failed, first.result = .ok ⟨.quit, evaluated, failed⟩ ∧
      whole.result = first.result ∧ whole.out = first.out ∧ whole.err = first.err ∧
      announcements whole.trace = announcements first.trace ∧
      whole.session.table = first.session.table) ∨
    ∃ evaluated failed outcome shown, first.result = .ok ⟨.endOfInput, evaluated, failed⟩ ∧
      second.result = .ok outcome ∧ first.out = shown ++ encodeUtf8 settings.prompt ∧
      whole.result =
        .ok ⟨outcome.ending, evaluated + outcome.evaluated, failed + outcome.failed⟩ ∧
      whole.out = shown ++ second.out ∧ whole.err = first.err ++ second.err ∧
      announcements whole.trace = announcements first.trace ++ announcements second.trace ∧
      whole.session.table = second.session.table := by
  intro separator first whole second
  have usable := Dialect.check_eq_ok.mp accepted
  have firstRun : first.scripted = _ := Session.run_overBytes accepted table (a ++ separator)
  have wholeRun : whole.scripted = _ :=
    (Session.run_overBytes accepted table (a ++ separator ++ b)).trans
      (congrArg ScriptSession.run (ScriptSession.ofBytes_append usable table a b))
  have secondRun : second.scripted = _ := Session.run_overBytes accepted first.session.table b
  rcases ScriptSession.run_append (s := .ofBytes settings table (a ++ separator)) ⟨rfl, rfl⟩
    (ScriptSession.complete_ofBytes usable table a) (scriptOf_clean usable b) with
    ⟨evaluated, failed, ended, same⟩ |
    ⟨evaluated, failed, outcome, shown, ended, more, out, kept, free, same⟩
  · have same := wholeRun.trans same
    rw [← firstRun] at same ended
    exact Or.inl ⟨evaluated, failed, ended, congrArg ScriptReport.result same,
      congrArg ScriptReport.out same, congrArg ScriptReport.err same,
      congrArg ScriptReport.announced same, congrArg (fun report => report.session.table) same⟩
  · have left : _ = first.session.table :=
      (congrArg (fun report => report.session.table) firstRun).symm
    have next := ScriptSession.withScript_eq_ofBytes free (show _ = settings from kept) left b
    have same := wholeRun.trans same
    rw [next, ← secondRun, ← firstRun] at same
    rw [next, ← secondRun] at more
    rw [← firstRun] at ended out
    exact Or.inr ⟨evaluated, failed, outcome, shown, ended, more, out,
      congrArg ScriptReport.result same, congrArg ScriptReport.out same,
      congrArg ScriptReport.err same, congrArg ScriptReport.announced same,
      congrArg (fun report => report.session.table) same⟩

theorem run_composes_at_separators_unclosed : Dialect.check {} = .ok () ∧
    let first := (Session.overBytes {} .empty (encodeUtf8 "let x = 2; (x" ++ encodeUtf8 ";")).run
    let whole := (Session.overBytes {} .empty
      (encodeUtf8 "let x = 2; (x" ++ encodeUtf8 ";" ++ encodeUtf8 "x * 3)")).run
    let second := (Session.overBytes {} first.session.table (encodeUtf8 "x * 3)")).run
    (∃ evaluated failed, first.result = .ok ⟨.quit, evaluated, failed⟩ ∧
      whole.result = first.result ∧ whole.out = first.out ∧ whole.err = first.err ∧
      announcements whole.trace = announcements first.trace ∧
      whole.session.table = first.session.table) ∨
    ∃ evaluated failed outcome shown, first.result = .ok ⟨.endOfInput, evaluated, failed⟩ ∧
      second.result = .ok outcome ∧ first.out = shown ++ encodeUtf8 "> " ∧
      whole.result =
        .ok ⟨outcome.ending, evaluated + outcome.evaluated, failed + outcome.failed⟩ ∧
      whole.out = shown ++ second.out ∧ whole.err = first.err ++ second.err ∧
      announcements whole.trace = announcements first.trace ++ announcements second.trace ∧
      whole.session.table = second.session.table :=
  ⟨rfl, run_composes_at_separators (show ({} : Settings).dialect.check = .ok () from rfl) .empty _ _⟩

end Calculator
