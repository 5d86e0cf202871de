import FaultReplay.Proofs.Cli.Derivation
import FaultReplay.Proofs.Context.Recording
import FaultReplay.Proofs.Run.Loading
import FaultReplay.Proofs.Run.Pairing

/-!
# Validated plans

To validate a plan file tells what a run will make of it. If the tool refuses the file, an injecting
context refuses every event for the same reason; if the tool prints a plan, the file and what was
printed give the same run.
-/

namespace FaultReplay

variable {d : Domain}

/-! ### Files that hold no plan -/

/-- A turn that leaves the text of a path as it is. -/
def Turn.KeepsText (path : String) : Turn d → Prop
  | report _ => True
  | outside change => ∀ disk : Disk, (change disk).readText? path = disk.readText? path

namespace Session

/-- An injecting session without a plan, for which the file of its path holds none either. -/
structure Refused (session : Session d) (path : String) (e : Error) : Prop where
  mode : session.context.settings.resolveMode = .ok .inject
  outcomePath : session.context.settings.outcomePath ≠ none
  planPath : session.context.settings.planPath = some path
  empty : session.context.cell.plan? = none
  refused : Plan.load d session.disk path = .error e

variable {session : Session d} {path : String} {e : Error}

theorem Refused.plan_eq (h : session.Refused path e) :
    session.context.plan session.disk = (.error e, { session.context with cell := {} }) := by
  obtain ⟨outcomes, outcomesAt⟩ := Option.ne_none_iff_exists'.1 h.outcomePath
  rw [Context.plan_of_empty h.empty, Settings.loadPlan_eq_load outcomesAt h.planPath, h.refused]
  rfl

theorem Refused.unplanned (h : session.Refused path e) (event : Event d) :
    (session.reply (some event)).Unplanned session.context session.disk event e :=
  Context.unplanned_of_refused h.mode (by rw [h.plan_eq]) event

/-- The session stays refused, and no fault is counted. -/
theorem Refused.turn (h : session.Refused path e) {next : Turn d} (keeps : next.KeepsText path) :
    (session.turn next).Refused path e ∧
      (session.turn next).context.injections = session.context.injections := by
  cases next with
  | outside change =>
      refine ⟨⟨h.mode, h.outcomePath, h.planPath, h.empty, ?_⟩, rfl⟩
      rw [← h.refused, Plan.load, Plan.load]
      exact congrArg (Plan.ofFile d path) (keeps session.disk)
  | report report =>
      cases report with
      | none => exact ⟨h, rfl⟩
      | some event =>
          have unplanned := h.unplanned event
          have settings := session.settings_after [.report (some event)]
          refine ⟨⟨?_, ?_, ?_, ?_, ?_⟩, unplanned.untouched.injections⟩
          · exact (congrArg Settings.resolveMode settings).trans h.mode
          · exact settings ▸ h.outcomePath
          · exact (congrArg Settings.planPath settings).trans h.planPath
          · refine (congrArg PlanCell.plan? unplanned.cell).trans ?_
            rw [h.plan_eq]
          · rw [← h.refused]
            exact congrArg (Plan.load d · path) unplanned.untouched.disk

theorem Refused.after (h : session.Refused path e) {run : List (Turn d)}
    (keeps : ∀ next ∈ run, next.KeepsText path) :
    (session.after run).Refused path e ∧
      (session.after run).context.injections = session.context.injections := by
  induction run generalizing session with
  | nil => exact ⟨h, rfl⟩
  | cons next run ih =>
      obtain ⟨still, same⟩ := h.turn (keeps next List.mem_cons_self)
      obtain ⟨later, counted⟩ := ih still fun other mem => keeps other (List.mem_cons_of_mem _ mem)
      exact ⟨later, counted.trans same⟩

/-! ### Files that hold a plan -/

/-- Some call of the run has applied a fault and written its record. -/
def Recorded (start : Session d) (run : List (Turn d)) : Prop :=
  ∃ before event fault, Turn.Calls run before event ∧ start.Fires before event fault ∧
    ((start.after before).reply (some event)).result = .ok ()

/-- No report changes where paths lead. -/
theorem locate_after (session : Session d) (reports : List (Option (Event d))) (path : String) :
    (session.after (reports.map .report)).disk.locate path = session.disk.locate path := by
  induction reports generalizing session with
  | nil => rfl
  | cons report reports ih =>
      calc
        _ = (session.turn (.report report)).disk.locate path := ih _
        _ = session.disk.locate path := by
          cases report with
          | none => rfl
          | some event =>
              exact ((session.context.agreeOn_hook session.disk event).locate_eq path).symm

variable {one two : Session d} {places : Disk.Place → Prop} {outcomes : String} {event : Event d}
  {fault : Fault d}

/-- A call that writes a record puts sessions in step at the file for outcomes, whatever was there
before. -/
theorem InStep.recorded (h : one.InStep (Disk.AgreeOn places) two)
    (outcomesAt : one.context.settings.outcomePath = some outcomes)
    (struck : (one.reply (some event)).Strikes one.context one.disk event fault)
    (written : (one.reply (some event)).result = .ok ()) :
    (one.turn (.report (some event))).InStep
      (Disk.AgreeOn fun place =>
        (one.turn (.report (some event))).disk.locate outcomes = some place)
      (two.turn (.report (some event))) := by
  have congruent := Disk.AgreeOn.congruence places
  have mode := struck.mode
  have outcomesAtToo := (Context.outcomePath_eq_of_twin h.twin).symm.trans outcomesAt
  have writable : one.disk.CanWrite outcomes :=
    (Context.records_of_strikes struck outcomesAt).result_eq_ok_iff.1 written
  obtain ⟨p, q, given, givenToo, alike⟩ := h.meets mode (by rw [outcomesAt]; nofun)
  have follows := Context.follows_verdict mode given outcomesAt writable event
  have followsToo := Context.follows_verdict ((Context.mode_eq_of_twin h.twin).symm.trans mode)
    givenToo outcomesAtToo ((h.near.canWrite_iff outcomes).1 writable) event
  obtain ⟨plan, same, found⟩ := struck.aims
  obtain rfl := Except.ok.inj (given.symm.trans same)
  have verdict := Plan.verdict_of_fits found struck.fits
  rw [← Context.events_eq_of_twin h.twin, ← alike] at followsToo
  rw [verdict] at follows followsToo
  have next := h.turn congruent (some event)
  exact ⟨next.near.of_read? (follows.saved _ rfl).2 (followsToo.saved _ rfl).2, next.twin,
    next.meets⟩

/-- Sessions in step have the same file for outcomes once a record was written to it. -/
theorem InStep.read?_of_recorded (h : one.InStep (Disk.AgreeOn places) two)
    (outcomesAt : one.context.settings.outcomePath = some outcomes)
    {reports : List (Option (Event d))} (recorded : one.Recorded (reports.map .report)) :
    (one.after (reports.map .report)).disk.read? outcomes =
      (two.after (reports.map .report)).disk.read? outcomes := by
  obtain ⟨before, event, fault, ⟨rest, split⟩, fires, written⟩ := recorded
  rw [List.append_assoc] at split
  obtain ⟨first, others, rfl, rfl, reported⟩ := List.map_eq_append_iff.1 split.symm
  obtain ⟨call, later, rfl, same, rfl⟩ := List.map_eq_cons_iff.1 reported
  obtain ⟨rfl⟩ := same
  have congruent := Disk.AgreeOn.congruence places
  have there := (one.outcomePath_after (first.map .report)).trans outcomesAt
  have inStep := (h.after congruent first).recorded there fires written
  have alike := inStep.goAlike (Disk.AgreeOn.congruence _) later
  rw [List.map_append, List.map_cons, after_append, after_append, after_cons, after_cons]
  apply alike.near.read?_eq
  intro place located
  rwa [locate_after] at located

end Session

/-! ### The command and the run -/

namespace Cli

theorem run_validate_eq_error_iff {path : String} {text : Option String} {failure : Failure} :
    (Command.validate d path).run text = .error failure ↔
      ∃ e, Plan.ofFile d path text = .error e ∧ .library e = failure := by
  rw [Command.run]
  cases Plan.ofFile d path text with
  | error e => simp [orRefused, Bind.bind, Except.bind]
  | ok plan => simp [orRefused, Bind.bind, Except.bind, Pure.pure, Except.pure]

/-- What validating prints is the text of a plan, and that is read as the same plan again. -/
theorem exists_of_run_validate {path out : String} {text : Option String}
    (h : (Command.validate d path).run text = .ok out) :
    ∃ plan, Plan.ofFile d path text = .ok plan ∧ plan.render = out ∧
      Plan.parse d out = .ok plan := by
  obtain ⟨plan, read, rfl⟩ := run_validate_eq_ok_iff.1 h
  refine ⟨plan, read, rfl, ?_⟩
  cases text with
  | none => cases read
  | some text =>
      apply Plan.parse_render_iff.2
      intro fault mem
      exact ⟨Plan.printable_of_parse read fault mem, Plan.settled_of_parse read fault mem⟩

end Cli

/-- Two sessions, each with a file that holds the same plan, are in step at the start. -/
theorem Session.inStep_of_loaded {settings : Settings} {disk saved : Disk} {path other : String}
    {plan : Plan d} {places : Disk.Place → Prop} (near : disk.AgreeOn places saved)
    (planAt : settings.planPath = some path) (loaded : Plan.load d disk path = .ok plan)
    (loadedToo : Plan.load d saved other = .ok plan) :
    (⟨.ofSettings settings, disk⟩ : Session d).InStep (Disk.AgreeOn places)
      ⟨.ofSettings { settings with planPath := some other }, saved⟩ where
  near := near
  twin := rfl
  meets := by
    intro mode named
    obtain ⟨outcomes, there⟩ := Option.ne_none_iff_exists'.1 named
    have outcomesAt : settings.outcomePath = some outcomes := there
    have outcomesAtToo : { settings with planPath := some other }.outcomePath = some outcomes :=
      there
    refine ⟨plan, plan, ?_, ?_, fun _ _ => rfl⟩
    · exact (Context.plan_ofSettings outcomesAt planAt disk).trans loaded
    · exact (Context.plan_ofSettings outcomesAtToo rfl saved).trans loadedToo

/-- A plan file that the tool refuses fails every call of an injecting context, and one that it
prints goes through all reports as the printed text does. -/
theorem Cli.validate_predicts (d : Domain) (disk : Disk) (path : String) :
    (∀ failure, (Command.validate d path).run (disk.readText? path) = .error failure →
      ∃ e, failure = .library e ∧ e.kind = .configuration ∧
        ∀ (settings : Settings) (run : List (Turn d)), settings.resolveMode = .ok .inject →
          settings.outcomePath ≠ none → settings.planPath = some path →
          (∀ next ∈ run, next.KeepsText path) →
          let start : Session d := ⟨.ofSettings settings, disk⟩
          (∀ before event, Turn.Calls run before event →
            ((start.after before).reply (some event)).Unplanned (start.after before).context
              (start.after before).disk event e) ∧
          (start.after run).context.events = UInt64.ofNat (Turn.events run).length ∧
          (start.after run).context.injections = 0) ∧
    ∀ out, (Command.validate d path).run (disk.readText? path) = .ok out →
      ∀ other saved, disk.write? other out.toUTF8 = some saved →
        (Command.validate d other).run (saved.readText? other) = .ok out ∧
        ∀ (settings : Settings) (reports : List (Option (Event d))),
          settings.planPath = some path →
          let one : Session d := ⟨.ofSettings settings, disk⟩
          let two : Session d :=
            ⟨.ofSettings { settings with planPath := some other }, saved⟩
          let run := reports.map Turn.report
          (one.replies run).map Reply.seen = (two.replies run).map Reply.seen ∧
          (one.after run).context.events = (two.after run).context.events ∧
          (one.after run).context.injections = (two.after run).context.injections ∧
          ∀ outcomes, settings.outcomePath = some outcomes →
            disk.locate outcomes ≠ disk.locate other ∨ one.Recorded run →
              (one.after run).disk.read? outcomes = (two.after run).disk.read? outcomes := by
  constructor
  · intro failure failed
    obtain ⟨e, refused, rfl⟩ := run_validate_eq_error_iff.1 failed
    have loaded : Plan.load d disk path = .error e := refused
    refine ⟨e, rfl, ?_, ?_⟩
    · rcases Plan.load_failsWith disk path e loaded with refuses | rfl
      · exact refuses.kind.1
      · rfl
    · intro settings run mode outcomePath planPath keeps start
      have first : start.Refused path e := ⟨mode, outcomePath, planPath, rfl, loaded⟩
      refine ⟨?_, ?_, (first.after keeps).2⟩
      · intro before event call
        have earlier : ∀ next ∈ before, next.KeepsText path := by
          intro next mem
          exact keeps next (call.subset (List.mem_append_left _ mem))
        exact (first.after earlier).1.unplanned event
      · rw [Session.events_after]
        exact UInt64.zero_add _
  · intro out printed other saved written
    obtain ⟨plan, loaded, rendered, parsed⟩ := exists_of_run_validate printed
    have full : out ≠ "" := rendered ▸ plan.render_ne_empty
    have text := Disk.readText?_of_write? full written
    have loadedToo : Plan.load d saved other = .ok plan := by
      rw [Plan.load, text]
      exact parsed
    refine ⟨run_validate_eq_ok_iff.2 ⟨plan, loadedToo, rendered⟩, ?_⟩
    intro settings reports planAt one two run
    have near : disk.AgreeOn (fun place => disk.locate other ≠ some place) saved :=
      .of_write? written fun place there _ elsewhere => elsewhere there
    have inStep : one.InStep (Disk.AgreeOn fun place => disk.locate other ≠ some place) two :=
      Session.inStep_of_loaded near planAt loaded loadedToo
    have alike := inStep.goAlike (Disk.AgreeOn.congruence _) reports
    refine ⟨alike.seen, alike.events_eq, alike.injections_eq, ?_⟩
    intro outcomes outcomesAt apart
    rcases apart with elsewhere | recorded
    · apply alike.near.read?_eq
      intro place there same
      rw [Session.locate_after] at there
      exact elsewhere (there.trans same.symm)
    · exact inStep.read?_of_recorded outcomesAt recorded

/-- A record without a count, with a number in base sixteen and a flag in letters, and the text that
it is printed as strike alike. Bytes that are no text are refused by the tool and by the run. -/
theorem Cli.validate_predicts_spelling :
    ∃ (disk saved : Disk) (settings refusing : Settings) (access : Event .memory),
      let one : Session .memory := ⟨.ofSettings settings, disk⟩
      let two : Session .memory := ⟨.ofSettings settings, saved⟩
      let three : Session .memory := ⟨.ofSettings refusing, disk⟩
      let run : List (Turn .memory) := [some access, none, some access].map Turn.report
      disk.readText? "plan.txt" = some "1 0x1 6 0 1 2 false 0" ∧
      saved.readText? "plan.txt" = some "1\n1 1 6 0 1 2 0 0\n" ∧
      (Command.validate .memory "plan.txt").run (disk.readText? "plan.txt") =
        .ok "1\n1 1 6 0 1 2 0 0\n" ∧
      (one.replies run).map Reply.seen = (two.replies run).map Reply.seen ∧
      (one.after run).disk.read? "outcome.txt" = (two.after run).disk.read? "outcome.txt" ∧
      (two.after run).context.injections = 1 ∧
      (Command.validate .memory "bytes.txt").run (disk.readText? "bytes.txt") =
        .error (.library (.planUnreadable "bytes.txt")) ∧
      (three.reply (some access)).Unplanned three.context three.disk access
        (.planUnreadable "bytes.txt") ∧
      (three.after run).context.events = 2 := by
  let disk : Disk := (Disk.empty.put ⟨false, ["bytes.txt"]⟩ (.file ⟨#[255]⟩)).put
    ⟨false, ["plan.txt"]⟩ (.file "1 0x1 6 0 1 2 false 0".toUTF8)
  let out := "1\n1 1 6 0 1 2 0 0\n"
  let saved : Disk := disk.put ⟨false, ["plan.txt"]⟩ (.file out.toUTF8)
  let settings : Settings :=
    { mode := some "inject", planPath := some "plan.txt", outcomePath := some "outcome.txt" }
  let refusing : Settings := { settings with planPath := some "bytes.txt" }
  let access : Event .memory := Memory.Access.mk #[6, 8] ⟨0, 1, 2⟩
  let reports : List (Option (Event .memory)) := [some access, none, some access]
  have located : disk.locate "plan.txt" = some ⟨false, ["plan.txt"]⟩ := by decide +kernel
  have takes : disk.Takes ⟨false, ["plan.txt"]⟩ := ⟨by decide +kernel, by decide +kernel⟩
  have printed : (Command.validate .memory "plan.txt").run (disk.readText? "plan.txt") =
      .ok out := by decide +kernel
  have failed : (Command.validate .memory "bytes.txt").run (disk.readText? "bytes.txt") =
      .error (.library (.planUnreadable "bytes.txt")) := by decide +kernel
  obtain ⟨-, same⟩ := (validate_predicts .memory disk "plan.txt").2 out printed "plan.txt" saved
    (Disk.write?_of_takes located takes out.toUTF8)
  obtain ⟨seen, -, -, files⟩ := same settings reports rfl
  obtain ⟨e, reason, -, refused⟩ :=
    (validate_predicts .memory disk "bytes.txt").1 _ failed
  obtain ⟨rfl⟩ := reason
  obtain ⟨calls, counted, -⟩ := refused refusing (reports.map Turn.report) (by decide +kernel)
    (by decide) rfl fun next mem => by
      obtain ⟨report, -, rfl⟩ := List.mem_map.1 mem
      trivial
  exact ⟨disk, saved, settings, refusing, access, by decide +kernel, by decide +kernel, printed,
    seen, files "outcome.txt" rfl (Or.inl (by decide +kernel)), by decide +kernel, failed,
    calls [] access (List.prefix_append _ _), counted⟩

end FaultReplay
