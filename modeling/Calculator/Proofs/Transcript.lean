import Calculator.Proofs.Findings
import Calculator.Proofs.MessageLines
import Mathlib.Data.List.Forall2

namespace Calculator

/-- What a run tells: its announcements in order, how it ends, and the table that it leaves. -/
structure Account where
  events : List Announcement
  ending : Ending
  table : SymbolTable

def Announcement.isValue : Announcement → Bool
  | .value _ => true
  | .fault _ => false

namespace Account

/-- How many statements had a value. -/
def evaluated (account : Account) : Nat := account.events.countP Announcement.isValue

/-- How many statements had none. -/
def failed (account : Account) : Nat := account.events.countP fun event => ¬event.isValue

/-- A run tells an account, with a prompt before each announcement and one at the end. The counts
are those of the statements before the run. -/
structure Tells (prompt marker : String) (evaluated failed : Nat) (account : Account)
    (report : Report) : Prop where
  events : announcements report.trace = account.events
  result : report.result =
    .ok ⟨account.ending, account.evaluated + evaluated, account.failed + failed⟩
  table : report.session.table = account.table
  out : report.out =
    account.events.flatMap (fun event => encodeUtf8 prompt ++ event.shown marker) ++
      encodeUtf8 prompt
  err : report.err = account.events.flatMap Announcement.told

/-- The account with one more announcement in front. -/
def cons (event : Announcement) (account : Account) : Account :=
  { account with events := event :: account.events }

variable {account : Account} {prompt marker : String} {evaluated failed : Nat} {report : Report}
  {turn : Turn}

theorem length_events (account : Account) :
    account.events.length = account.evaluated + account.failed :=
  List.length_eq_countP_add_countP _

theorem evaluated_cons (event : Announcement) (account : Account) :
    (account.cons event).evaluated = account.evaluated + if event.isValue then 1 else 0 :=
  List.countP_cons

theorem failed_cons (event : Announcement) (account : Account) :
    (account.cons event).failed = account.failed + if event.isValue then 0 else 1 := by
  have counted : (account.cons event).failed =
      account.failed + if decide ¬event.isValue then 1 else 0 := List.countP_cons
  rw [counted]
  cases event.isValue with
  | true => rfl
  | false => rfl

/-- A turn that makes an announcement goes before an account. -/
theorem Tells.after {event : Announcement}
    (h : account.Tells prompt marker (evaluated + if event.isValue then 1 else 0)
      (failed + if event.isValue then 0 else 1) report)
    (told : announcements turn.trace = [event])
    (out : turn.out = encodeUtf8 prompt ++ event.shown marker) (err : turn.err = event.told) :
    (account.cons event).Tells prompt marker evaluated failed (report.after turn) where
  events := by
    rw [Report.after, announcements_append, told, h.events]
    rfl
  result := by
    have evaluations : (account.cons event).evaluated + evaluated =
        account.evaluated + (evaluated + if event.isValue then 1 else 0) := by
      rw [evaluated_cons]
      omega
    have failures : (account.cons event).failed + failed =
        account.failed + (failed + if event.isValue then 0 else 1) := by
      rw [failed_cons]
      omega
    rw [evaluations, failures]
    exact h.result
  table := h.table
  out := by
    rw [cons, List.flatMap_cons, ← out, List.append_assoc, ← h.out]
    rfl
  err := by
    rw [cons, List.flatMap_cons, ← err, ← h.err]
    rfl

/-- Runs that agree in their results, their accounts of events and their tables tell the same. -/
theorem Tells.unique {other : Account} {another : Report} {otherPrompt otherMarker : String}
    (h : account.Tells prompt marker evaluated failed report)
    (g : other.Tells otherPrompt otherMarker evaluated failed another)
    (result : another.result = report.result) (trace : another.trace = report.trace)
    (table : another.session.table = report.session.table) : other = account := by
  have events : other.events = account.events := by rw [← g.events, trace, h.events]
  have outcomes := Except.ok.inj (g.result.symm.trans (result.trans h.result))
  have endings : other.ending = account.ending := congrArg Outcome.ending outcomes
  have tables := g.table.symm.trans (table.trans h.table)
  obtain ⟨_, _, _⟩ := other
  obtain ⟨_, _, _⟩ := account
  cases events
  cases endings
  cases tables
  rfl

/-- Every byte is written once for each time that it stands in a prompt or a result. -/
theorem Tells.count_out (h : account.Tells prompt marker evaluated failed report) (byte : UInt8) :
    report.out.count byte =
      (account.evaluated + account.failed + 1) * (encodeUtf8 prompt).count byte +
        (account.events.flatMap (Announcement.shown marker)).count byte := by
  rw [h.out, ← length_events]
  induction account.events with
  | nil => simp
  | cons event events ih =>
    simp only [List.flatMap_cons, List.count_append, List.length_cons] at ih ⊢
    rw [Nat.add_mul, Nat.one_mul]
    omega

/-- Messages of one line are told one line each. -/
theorem Tells.count_err (h : account.Tells prompt marker evaluated failed report)
    (oneLine : ∀ fault, .fault fault ∈ account.events → fault.OneLine) :
    report.err.count 10 = account.failed := by
  rw [h.err, Account.failed]
  revert oneLine
  induction account.events with
  | nil => exact fun _ => rfl
  | cons event events ih =>
    intro oneLine
    have more := ih fun fault listed => oneLine fault (List.mem_cons_of_mem _ listed)
    rw [List.flatMap_cons, List.count_append, more, List.countP_cons]
    cases event with
    | value v => simp [Announcement.told, Announcement.isValue]
    | fault fault =>
      have one := count_newline_encodeUtf8 (oneLine fault List.mem_cons_self)
      simp [Announcement.told, Announcement.isValue, one, Nat.add_comm]

end Account

namespace Session

variable {s : Session}

/-- A turn where no device fails either ends the run, with nothing written but the prompt, or makes
one announcement. -/
theorem Wide.turn_tells (wide : s.Wide) (normal : s.tokens.source.failure = none) :
    (∃ ending, s.turn.how = .finished ending ∧ announcements s.turn.trace = [] ∧
      s.turn.out = encodeUtf8 s.settings.prompt ∧ s.turn.err = []) ∨
    ∃ event, s.turn.how = (if event.isValue then .evaluated else .failed) ∧
      announcements s.turn.trace = [event] ∧
      s.turn.out = encodeUtf8 s.settings.prompt ++ event.shown s.settings.resultMarker ∧
      s.turn.err = event.told := by
  have quiet := (Tokenizer.calm_find s.table s.tokens).2.2
  have noFailure : ∀ fault, (s.tokens.find s.table).finding ≠ .failure fault :=
    fun _ => Tokenizer.find_ne_failure normal
  have unbroken : ∀ fault, s.turn.how ≠ .broken fault :=
    fun _ => turn_not_broken normal wide.out wide.err
  rw [wide.turn_eq] at unbroken ⊢
  generalize s.tokens.find s.table = found at quiet noFailure unbroken ⊢
  obtain ⟨finding, tokens, trace⟩ := found
  cases finding with
  | value evaluated =>
    rw [wide.tell_value]
    refine Or.inr ⟨.value evaluated.value, rfl, ?_, rfl, rfl⟩
    rw [announcements_append, quiet]
    rfl
  | mistake fault =>
    have skipped := (calm_discardThrough s.settings.dialect.separator tokens).2.2
    rw [wide.tell_mistake] at unbroken ⊢
    cases done : (tokens.discardThrough s.settings.dialect.separator).result with
    | error broken => exact absurd (by simp only [done]) (unbroken broken)
    | ok =>
      refine Or.inr ⟨.fault fault, by simp only [done]; rfl, ?_, rfl, rfl⟩
      rw [announcements_append, quiet, List.nil_append]
      exact congrArg (Announcement.fault fault :: ·) skipped
  | ending ending => exact Or.inl ⟨ending, rfl, quiet, List.append_nil _, rfl⟩
  | failure fault => exact absurd rfl (noFailure fault)

/-- A run where no device fails tells an account. -/
theorem Wide.exists_account {s : Session} (wide : s.Wide) (normal : s.tokens.source.failure = none)
    (evaluated failed : Nat) : ∃ account : Account, account.Tells s.settings.prompt
      s.settings.resultMarker evaluated failed (s.runFrom evaluated failed) := by
  have onward := onward_turn s
  have later := onward.leads.failure.trans normal
  rw [runFrom_eq]
  rcases wide.turn_tells normal with ⟨ending, how, quiet, out, err⟩ | ⟨event, how, told, out, err⟩
  · rw [how]
    refine ⟨⟨[], ending, s.turn.session.table⟩, ?_, ?_, rfl, out, err⟩
    · rw [announcements_append, quiet]
      rfl
    · rw [Account.evaluated, Account.failed, List.countP_nil, List.countP_nil, Nat.zero_add,
        Nat.zero_add]
  · cases value : event.isValue with
    | true =>
      rw [value, if_pos rfl] at how
      have less := size_turn (Or.inl how)
      obtain ⟨account, tells⟩ := Wide.exists_account wide.turn later (evaluated + 1) failed
      rw [onward.settings] at tells
      rw [how]
      refine ⟨account.cons event, Account.Tells.after ?_ told out err⟩
      rw [value]
      exact tells
    | false =>
      rw [value, if_neg Bool.false_ne_true] at how
      have less := size_turn (Or.inr how)
      obtain ⟨account, tells⟩ := Wide.exists_account wide.turn later evaluated (failed + 1)
      rw [onward.settings] at tells
      rw [how]
      refine ⟨account.cons event, Account.Tells.after ?_ told out err⟩
      rw [value]
      exact tells
termination_by s.tokens.size

/-- The session with another prompt and another result marker. -/
def reworded (prompt marker : String) (s : Session) : Session :=
  { s with settings := { s.settings with prompt, resultMarker := marker } }

theorem Wide.reworded (wide : s.Wide) (prompt marker : String) :
    (s.reworded prompt marker).Wide := ⟨wide.out, wide.err⟩

/-- Prompt and marker influence nothing but what is written. -/
theorem Wide.reworded_turn (wide : s.Wide) (prompt marker : String) :
    (s.reworded prompt marker).turn.how = s.turn.how ∧
      (s.reworded prompt marker).turn.session = s.turn.session.reworded prompt marker ∧
      (s.reworded prompt marker).turn.trace = s.turn.trace := by
  have other := (wide.reworded prompt marker).turn_eq
  have found : (s.reworded prompt marker).tokens.find (s.reworded prompt marker).table =
      s.tokens.find s.table := rfl
  rw [found] at other
  rw [other, wide.turn_eq]
  obtain ⟨finding, tokens, trace⟩ := s.tokens.find s.table
  cases finding with
  | value evaluated =>
    rw [wide.tell_value, (wide.reworded prompt marker).tell_value]
    exact ⟨rfl, rfl, rfl⟩
  | mistake fault =>
    rw [wide.tell_mistake, (wide.reworded prompt marker).tell_mistake]
    exact ⟨rfl, rfl, rfl⟩
  | ending ending => exact ⟨rfl, rfl, rfl⟩
  | failure fault => exact ⟨rfl, rfl, rfl⟩

theorem Wide.reworded_runFrom {s : Session} (wide : s.Wide) (prompt marker : String)
    (evaluated failed : Nat) :
    ((s.reworded prompt marker).runFrom evaluated failed).result =
        (s.runFrom evaluated failed).result ∧
      ((s.reworded prompt marker).runFrom evaluated failed).session =
        (s.runFrom evaluated failed).session.reworded prompt marker ∧
      ((s.reworded prompt marker).runFrom evaluated failed).trace =
        (s.runFrom evaluated failed).trace := by
  obtain ⟨how, left, trace⟩ := wide.reworded_turn prompt marker
  rw [runFrom_eq s, runFrom_eq (s.reworded prompt marker), how, left]
  cases ends : s.turn.how with
  | evaluated =>
    have less := size_turn (Or.inl ends)
    obtain ⟨result, session, more⟩ :=
      Wide.reworded_runFrom wide.turn prompt marker (evaluated + 1) failed
    refine ⟨result, session, ?_⟩
    simp only [Report.after, trace, more]
  | failed =>
    have less := size_turn (Or.inr ends)
    obtain ⟨result, session, more⟩ :=
      Wide.reworded_runFrom wide.turn prompt marker evaluated (failed + 1)
    refine ⟨result, session, ?_⟩
    simp only [Report.after, trace, more]
  | finished ending => exact ⟨rfl, rfl, by simp only [trace]⟩
  | broken fault => exact ⟨rfl, rfl, trace⟩
termination_by s.tokens.size

theorem Wide.exists_accounts {s : Session} (wide : s.Wide)
    (normal : s.tokens.source.failure = none) (n : Nat) : ∃ accounts : List Account,
      (∀ account ∈ accounts, ∃ report ∈ s.runs n,
        announcements report.trace = account.events) ∧
      ∀ prompt marker, List.Forall₂ (Account.Tells prompt marker 0 0) accounts
        ((s.reworded prompt marker).runs n) := by
  induction n generalizing s with
  | zero => exact ⟨[], List.forall_mem_nil _, fun _ _ => .nil⟩
  | succ n ih =>
    have onward := (visits_runFrom s 0 0).onward
    obtain ⟨account, tells⟩ := wide.exists_account normal 0 0
    obtain ⟨accounts, listed, more⟩ :=
      ih (wide.onward onward) (onward.leads.failure.trans normal)
    refine ⟨account :: accounts, ?_, fun prompt marker => ?_⟩
    · rintro other told
      rcases List.mem_cons.mp told with rfl | late
      · exact ⟨s.run, List.mem_cons_self, tells.events⟩
      · obtain ⟨report, later, same⟩ := listed other late
        exact ⟨report, List.mem_cons_of_mem _ later, same⟩
    · obtain ⟨result, left, trace⟩ := wide.reworded_runFrom prompt marker 0 0
      obtain ⟨other, again⟩ := (wide.reworded prompt marker).exists_account normal 0 0
      have table : ((s.reworded prompt marker).runFrom 0 0).session.table =
          (s.runFrom 0 0).session.table := by
        rw [left]
        rfl
      rw [tells.unique again result trace table] at again
      refine .cons again ?_
      have rest := more prompt marker
      rw [run, left]
      exact rest

end Session

/-- A run is told by what it counts. Whatever the prompt and the marker are, the runs make the same
announcements, come to the same endings and leave the same tables; each writes its prompt before
every announcement and once at the end, and each fault that is counted takes one line. -/
theorem transcript_is_what_was_counted {dialect : Dialect} (accepted : dialect.check = .ok ())
    (withConstants : Bool) (bytes : List UInt8) (n : Nat) : ∃ accounts : List Account,
      (∀ account ∈ accounts, ∀ fault, .fault fault ∈ account.events →
        fault.recoverable = true ∧ '\n' ∉ fault.message.toList) ∧
      ∀ prompt marker, ∃ s, Session.start ⟨dialect, prompt, marker, withConstants⟩
          (.ofBytes bytes none) .unlimited .unlimited = .ok s ∧
        List.Forall₂ (fun account report => account.Tells prompt marker 0 0 report ∧
          report.err.count 10 = account.failed ∧
          ∀ byte, report.out.count byte =
            (account.evaluated + account.failed + 1) * (encodeUtf8 prompt).count byte +
              (account.events.flatMap (Announcement.shown marker)).count byte)
          accounts (s.runs n) := by
  -- The accounts are those of a session that is started with an empty prompt and marker.
  have wide : Session.Wide ⟨⟨dialect, "", "", withConstants⟩,
      .ofSource dialect (.ofBytes bytes none),
      if withConstants then .withConstants else .empty, .unlimited, .unlimited⟩ := ⟨rfl, rfl⟩
  obtain ⟨accounts, listed, tells⟩ := wide.exists_accounts rfl n
  have plain : ∀ account ∈ accounts, ∀ fault, .fault fault ∈ account.events →
      fault.recoverable = true ∧ fault.OneLine := by
    intro account told fault event
    obtain ⟨report, run, same⟩ := listed account told
    rw [← same] at event
    exact Session.oneLine_of_mem_runs (Tokenizer.ready_ofBytes accepted bytes) rfl run event
  refine ⟨accounts, plain, fun prompt marker => ⟨_,
    @Session.start_eq ⟨dialect, prompt, marker, withConstants⟩ accepted _ _ _, ?_⟩⟩
  have both := (List.forall₂_and_left accounts _).mpr ⟨plain, tells prompt marker⟩
  refine both.imp fun account report ⟨plain, tells⟩ => ⟨tells, ?_, tells.count_out⟩
  exact tells.count_err fun fault event => (plain fault event).2

/-- Two sessions with other prompts and markers report a bad token, a value and the word that ends
them in the same way. -/
theorem transcript_is_what_was_counted_badToken : Dialect.check {} = .ok () ∧
    ∃ bare worded, Session.start ⟨{}, "", "", true⟩ (.ofBytes (encodeUtf8 "$;pi;quit") none)
        .unlimited .unlimited = .ok bare ∧
      Session.start ⟨{}, "? ", "-> ", true⟩ (.ofBytes (encodeUtf8 "$;pi;quit") none) .unlimited
        .unlimited = .ok worded ∧
      worded.run.result = bare.run.result ∧ worded.run.err = bare.run.err ∧
      worded.run.session.table = bare.run.session.table := by
  obtain ⟨accounts, _, tells⟩ :=
    @transcript_is_what_was_counted {} rfl true (encodeUtf8 "$;pi;quit") 1
  obtain ⟨bare, started, first⟩ := tells "" ""
  obtain ⟨worded, startedToo, second⟩ := tells "? " "-> "
  refine ⟨rfl, bare, worded, started, startedToo, ?_⟩
  match accounts, first, second with
  | [account], .cons ⟨h, _⟩ .nil, .cons ⟨g, _⟩ .nil =>
    exact ⟨g.result.trans h.result.symm, g.err.trans h.err.symm, g.table.trans h.table.symm⟩

end Calculator
