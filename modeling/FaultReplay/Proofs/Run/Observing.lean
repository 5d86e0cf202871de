import FaultReplay.Proofs.Run.Interleaving

/-!
# Runs that only observe

A context that does not inject leaves events, the count of applied faults and its plan cell alone,
and of the files on the disk it touches none but the log, which it makes longer. So a machine that
is watched while it runs goes through the states it goes through when nobody looks.
-/

namespace FaultReplay

/-! ### A file that grows -/

/-- A disk that differs from another in the file of one path at most, where the old contents are
followed by more. -/
structure Disk.Grows (one two : Disk) (log : String) : Prop where
  others : one.AgreeOn (fun place => one.locate log ≠ some place) two
  longer : two.read? log = one.read? log ∨
    ∃ added, two.read? log = some (one.contents log ++ added)

namespace Disk.Grows

variable {one two three disk : Disk} {log : String}

theorem refl (disk : Disk) (log : String) : disk.Grows disk log :=
  ⟨.refl disk, Or.inl rfl⟩

theorem trans (h : one.Grows two log) (next : two.Grows three log) : one.Grows three log where
  others := by
    apply h.others.trans
    apply next.others.mono
    intro place elsewhere
    rwa [← h.others.locate_eq log]
  longer := by
    obtain same | ⟨second, more⟩ := next.longer
    · rw [same]
      exact h.longer
    obtain same | ⟨first, grown⟩ := h.longer
    · exact Or.inr ⟨second, by rw [more, contents, same, contents]⟩
    · refine Or.inr ⟨first ++ second, ?_⟩
      rw [more, contents_of_read? grown, ByteArray.append_assoc]

theorem of_append {bytes : ByteArray} {changed : Disk}
    (appended : disk.append log bytes = .ok changed) : disk.Grows changed log where
  others := .of_append appended fun place there _ elsewhere => elsewhere there
  longer := by
    rcases cases_of_append appended with ⟨place, there, takes, rfl⟩ | ⟨-, rfl⟩
    · exact Or.inr ⟨bytes, read?_put_file there takes.1⟩
    · exact Or.inl rfl

end Disk.Grows

variable {d : Domain}

/-! ### Reports -/

namespace Session

/-- Events are logged to the file that a path leads to. -/
def LogsTo (session : Session d) (path : String) : Prop :=
  session.context.mode = .ok .profile ∧
    ∃ log place, session.context.settings.profilePath = some log ∧
      session.disk.locate log = some place ∧ session.disk.locate path = some place

/-- A session that another may have become without injecting. -/
structure Observes (start now : Session d) : Prop where
  settings : now.context.settings = start.context.settings
  cell : now.context.cell = start.context.cell
  injections : now.context.injections = start.context.injections
  /-- Without profiling, and without a path for the log, no file is touched. -/
  idle : start.context.mode ≠ .ok .profile ∨ start.context.settings.profilePath = none →
    now.disk = start.disk
  log (path : String) : start.context.settings.profilePath = some path →
    start.disk.Grows now.disk path

namespace Observes

variable {start now next : Session d}

theorem refl (start : Session d) : start.Observes start :=
  ⟨rfl, rfl, rfl, fun _ => rfl, fun path _ => .refl start.disk path⟩

theorem mode (h : start.Observes now) : now.context.mode = start.context.mode :=
  congrArg Settings.resolveMode h.settings

theorem trans (h : start.Observes now) (more : now.Observes next) : start.Observes next where
  settings := more.settings.trans h.settings
  cell := more.cell.trans h.cell
  injections := more.injections.trans h.injections
  idle := by
    intro still
    rw [more.idle (by rwa [h.mode, h.settings]), h.idle still]
  log := by
    intro path logged
    exact (h.log path logged).trans (more.log path (by rwa [h.settings]))

/-- Only a path that leads to the log is read otherwise than before. -/
theorem read?_eq (h : start.Observes now) {path : String} (apart : ¬ start.LogsTo path) :
    now.disk.read? path = start.disk.read? path := by
  by_cases mode : start.context.mode = .ok .profile
  · cases logged : start.context.settings.profilePath with
    | none => rw [h.idle (Or.inr logged)]
    | some log =>
        have others := (h.log log logged).others
        refine (others.read?_eq fun place there same => ?_).symm
        exact apart ⟨mode, log, place, logged, same, there⟩
  · rw [h.idle (Or.inl mode)]

end Observes

variable {start : Session d}

/-- A report to a context that does not inject gives the event back as it came. -/
theorem observes_reply (observing : start.context.mode ≠ .ok .inject)
    (report : Option (Event d)) :
    (start.reply report).event = report ∧ start.Observes (start.turn (.report report)) := by
  cases report with
  | none => exact ⟨rfl, .refl start⟩
  | some event =>
      have served := start.context.hook_serves start.disk event
      change (start.context.hook start.disk (some event)).event = some event ∧
        start.Observes ⟨(start.context.hook start.disk (some event)).context,
          (start.context.hook start.disk (some event)).disk⟩
      generalize start.context.hook start.disk (some event) = reply at served
      cases served with
      | invalid | disabled | unlogged =>
          exact ⟨rfl, rfl, rfl, rfl, fun _ => rfl, fun path _ => .refl start.disk path⟩
      | logged mode logged =>
          obtain ⟨log, path, appended⟩ := Context.append_of_attemptLog logged
          refine ⟨rfl, rfl, rfl, rfl, ?_, ?_⟩
          · rintro (off | missing)
            · exact absurd mode off
            · cases missing.symm.trans path
          · intro other named
            obtain rfl := Option.some.inj (path.symm.trans named)
            exact .of_append appended
      | unplanned mode | spared mode | missed mode | unrecorded mode | recorded mode =>
          exact absurd mode observing

/-- Through a run of reports every event is given back as it came, and the session has become no
other than by observing. -/
theorem observes_after (observing : start.context.mode ≠ .ok .inject)
    (calls : List (Option (Event d))) :
    (start.replies (calls.map Turn.report)).map Reply.event = calls ∧
      start.Observes (start.after (calls.map Turn.report)) := by
  induction calls generalizing start with
  | nil => exact ⟨rfl, .refl start⟩
  | cons call calls ih =>
      obtain ⟨event, observed⟩ := observes_reply observing call
      obtain ⟨events, rest⟩ := ih (by rwa [observed.mode])
      rw [List.map_cons, replies_report, List.map_cons, event, events, after_cons]
      exact ⟨rfl, observed.trans rest⟩

end Session

/-! ### Machines that are watched -/

/-- A machine that reports what it does: from its state come the next report and, with the event
that is given back, the next state. An error ends the run, which then is one of fewer reports. -/
structure Machine (σ : Type) where
  report : σ → Report
  resume : (state : σ) → Option (Event (report state).1) → σ

namespace Machine

variable {σ : Type} (machine : Machine σ)

/-- The state after a number of reports that nobody listens to. -/
def alone : Nat → σ → σ
  | 0, state => state
  | n + 1, state => alone n (machine.resume state (machine.report state).2)

/-- The state after a number of reports to a harness, and the harness then. -/
def watched : Nat → σ → Harness → σ × Harness
  | 0, state, harness => (state, harness)
  | n + 1, state, harness =>
    watched n (machine.resume state (harness.reply (machine.report state)).event)
      (harness.step (machine.report state))

end Machine

namespace Harness

/-- No domain injects. -/
def Observing (harness : Harness) : Prop :=
  ∀ d, (harness.contexts d).mode ≠ .ok .inject

variable {harness : Harness}

theorem Observing.step (observing : harness.Observing) (report : Report) :
    (harness.step report).Observing := by
  intro d
  rw [Context.mode, harness.settings_step report d]
  exact observing d

theorem Observing.event_reply (observing : harness.Observing) (report : Report) :
    (harness.reply report).event = report.2 := by
  let session : Session report.1 := ⟨harness.contexts report.1, harness.disk⟩
  have still : session.context.mode ≠ .ok .inject := observing report.1
  exact (Session.observes_reply still report.2).1

end Harness

/-- A harness that does not inject lets a machine go where it goes alone. -/
theorem Machine.state_watched {σ : Type} (machine : Machine σ) {harness : Harness}
    (observing : harness.Observing) (n : Nat) (state : σ) :
    (machine.watched n state harness).1 = machine.alone n state := by
  induction n generalizing state harness with
  | zero => rfl
  | succ n ih =>
      rw [watched, alone, ih (observing.step _), observing.event_reply]

/-- A context that does not inject gives every event back as it came and changes no file but the
log, which becomes longer at its end. -/
theorem observing_touches_log_only :
    (∀ {d : Domain} (start : Session d) (calls : List (Option (Event d))),
      start.context.mode ≠ .ok .inject →
      let now := start.after (calls.map Turn.report)
      (start.replies (calls.map Turn.report)).map Reply.event = calls ∧
        start.Observes now ∧
        ∀ path, ¬ start.LogsTo path → now.disk.read? path = start.disk.read? path) ∧
    ∀ {σ : Type} (machine : Machine σ) (profiling disabled : Harness),
      profiling.Observing → disabled.Observing → ∀ n state,
        (machine.watched n state profiling).1 = (machine.watched n state disabled).1 := by
  constructor
  · intro d start calls observing
    obtain ⟨events, observed⟩ := Session.observes_after observing calls
    exact ⟨events, observed, fun path => observed.read?_eq⟩
  · intro σ machine profiling disabled observing observingToo n state
    rw [machine.state_watched observing, machine.state_watched observingToo]

/-- A machine adds one to a register again and again. Its instructions are logged, nothing comes to
the file for outcomes, and the register is as without the log. -/
theorem observing_touches_log_only_counting :
    let settings : Settings := ⟨some "profile", some "log.txt", none, some "outcome.txt"⟩
    let add (register : UInt64) : Event .instruction :=
      Instruction.Retirement.mk "ADD" 4 0 [register]
    let machine : Machine UInt64 :=
      ⟨fun register => ⟨.instruction, some (add (register + 1))⟩,
        fun register event => (event.bind fun event => event.registers.head?).getD register⟩
    let start : Session .instruction := ⟨.ofSettings settings, .empty⟩
    let now := start.after ([some (add 3)].map Turn.report)
    let profiling : Harness := ⟨fun _ => .ofSettings settings, .empty⟩
    let disabled : Harness := ⟨fun _ => .ofSettings {}, .empty⟩
    start.context.mode ≠ .ok .inject ∧ ¬ start.LogsTo "outcome.txt" ∧
      start.Observes now ∧ now.disk.read? "outcome.txt" = none ∧
      now.disk.read? "log.txt" = some "1;ADD;4;0;1;3\n".toUTF8 ∧
      (machine.watched 2 7 profiling).1 = (machine.watched 2 7 disabled).1 ∧
      (machine.watched 2 7 disabled).1 = 9 := by
  intro settings add machine start now profiling disabled
  have observing : start.context.mode ≠ .ok .inject := by decide +kernel
  have logPlace : Disk.empty.locate "log.txt" = some ⟨false, ["log.txt"]⟩ := by decide +kernel
  have outcomePlace : Disk.empty.locate "outcome.txt" = some ⟨false, ["outcome.txt"]⟩ := by
    decide +kernel
  have apart : ¬ start.LogsTo "outcome.txt" := by
    rintro ⟨-, log, place, named, there, same⟩
    obtain rfl := Option.some.inj named
    have places := (logPlace.symm.trans there).trans (same.symm.trans outcomePlace)
    simp at places
  obtain ⟨-, observed, others⟩ := observing_touches_log_only.1 start [some (add 3)] observing
  have off : disabled.Observing := by
    intro d
    cases d <;> decide +kernel
  have same := observing_touches_log_only.2 machine profiling disabled (fun _ => observing) off 2 7
  exact ⟨observing, apart, observed, others "outcome.txt" apart, by decide +kernel, same,
    by decide +kernel⟩

/-- Where the path for outcomes is the one of the log, a context that profiles makes a file for
outcomes, which holds the log. -/
theorem exists_outcome_file_of_profile :
    ∃ (settings : Settings) (outcomes : String) (add : Event .instruction),
      let start : Session .instruction := ⟨.ofSettings settings, .empty⟩
      let now := start.after ([some add].map Turn.report)
      settings.resolveMode = .ok .profile ∧ settings.outcomePath = some outcomes ∧
        start.disk.read? outcomes = none ∧
        now.disk.read? outcomes = some "1;ADD;4;0;1;3\n".toUTF8 :=
  ⟨⟨some "profile", some "x.txt", none, some "x.txt"⟩, "x.txt",
    Instruction.Retirement.mk "ADD" 4 0 [3], by decide +kernel, rfl, by decide +kernel,
    by decide +kernel⟩

end FaultReplay
