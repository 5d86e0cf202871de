import FaultReplay.Proofs.Fault.Corruption
import FaultReplay.Proofs.Except
import FaultReplay.Proofs.Plan.Lookup

/-!
# How an event is served

`Serves` lists everything that can become of an event, one case for each way out, under the number
that the event has. A report with an event is served under the number after the last one, so what
holds of every case holds of every report.
-/

namespace FaultReplay.Context

variable {d : Domain} {context : Context d} {disk : Disk} {event : Event d} {number : UInt64}
  {reply : Reply d}

/-- The context when it has counted up to a number. -/
def numbered (context : Context d) (number : UInt64) : Context d :=
  { context with counter := ⟨number⟩ }

/-- The context with one more fault applied. -/
def credited (context : Context d) : Context d :=
  { context with injections := context.injections + 1 }

@[simp] theorem numbered_settings (context : Context d) (number : UInt64) :
    (context.numbered number).settings = context.settings := rfl

@[simp] theorem numbered_events (context : Context d) (number : UInt64) :
    (context.numbered number).events = number := rfl

@[simp] theorem numbered_injections (context : Context d) (number : UInt64) :
    (context.numbered number).injections = context.injections := rfl

@[simp] theorem credited_settings (context : Context d) :
    context.credited.settings = context.settings := rfl

@[simp] theorem credited_events (context : Context d) :
    context.credited.events = context.events := rfl

@[simp] theorem credited_injections (context : Context d) :
    context.credited.injections = context.injections + 1 := rfl

/-- The attempt to log an event under a number. -/
def attemptLog (context : Context d) (disk : Disk) (number : UInt64) (event : Event d) :
    Except Error Disk := do
  let path ← context.settings.requireProfilePath
  Profile.append disk path (Entry.observe number event).render

/-- What can become of an event with a number. -/
inductive Serves (context : Context d) (disk : Disk) (number : UInt64) (event : Event d) :
    Reply d → Prop
  | invalid {e : Error} (mode : context.mode = .error e) :
      Serves context disk number event ⟨.error e, some event, context.numbered number, disk⟩
  | disabled (mode : context.mode = .ok .disabled) :
      Serves context disk number event ⟨.ok (), some event, context.numbered number, disk⟩
  | unlogged {e : Error} (mode : context.mode = .ok .profile)
      (refused : context.attemptLog disk number event = .error e) :
      Serves context disk number event ⟨.error e, some event, context.numbered number, disk⟩
  | logged {longer : Disk} (mode : context.mode = .ok .profile)
      (appended : context.attemptLog disk number event = .ok longer) :
      Serves context disk number event ⟨.ok (), some event, context.numbered number, longer⟩
  | unplanned {e : Error} {after : Context d} (mode : context.mode = .ok .inject)
      (refused : context.plan disk = (.error e, after)) :
      Serves context disk number event ⟨.error e, some event, after.numbered number, disk⟩
  | spared {plan : Plan d} {after : Context d} (mode : context.mode = .ok .inject)
      (planned : context.plan disk = (.ok plan, after))
      (unaimed : plan.find number event.identity = none) :
      Serves context disk number event ⟨.ok (), some event, after.numbered number, disk⟩
  | missed {plan : Plan d} {after : Context d} {fault : Fault d} {e : Error}
      (mode : context.mode = .ok .inject) (planned : context.plan disk = (.ok plan, after))
      (aimed : plan.find number event.identity = some fault)
      (refused : fault.strike number event = .error e) :
      Serves context disk number event ⟨.error e, some event, after.numbered number, disk⟩
  | unrecorded {plan : Plan d} {after : Context d} {fault : Fault d} {path : String}
      (mode : context.mode = .ok .inject) (planned : context.plan disk = (.ok plan, after))
      (aimed : plan.find number event.identity = some fault) (fits : fault.Fits event)
      (outcomePath : context.settings.outcomePath = some path)
      (refused : disk.write? path (fault.outcome event).bytes = none) :
      Serves context disk number event
        ⟨.error (.outcomeUnwritable path), some (fault.corrupt event),
          (after.numbered number).credited, disk⟩
  | recorded {plan : Plan d} {after : Context d} {fault : Fault d} {path : String} {written : Disk}
      (mode : context.mode = .ok .inject) (planned : context.plan disk = (.ok plan, after))
      (aimed : plan.find number event.identity = some fault) (fits : fault.Fits event)
      (outcomePath : context.settings.outcomePath = some path)
      (saved : disk.write? path (fault.outcome event).bytes = some written) :
      Serves context disk number event
        ⟨.ok (), some (fault.corrupt event), (after.numbered number).credited, written⟩

/-! ### The plan of a context -/

/-- A request for the plan changes nothing but the cell. -/
theorem eq_of_plan {answer : Except Error (Plan d)} {after : Context d}
    (h : context.plan disk = (answer, after)) : after = { context with cell := after.cell } := by
  have kept : (context.plan disk).2 = { context with cell := (context.plan disk).2.cell } := by
    unfold plan
    split
    · rfl
    · split
      · rfl
      · split <;> rfl
  rwa [h] at kept

theorem settings_of_plan {answer : Except Error (Plan d)} {after : Context d}
    (h : context.plan disk = (answer, after)) : after.settings = context.settings := by
  rw [eq_of_plan h]

theorem injections_of_plan {answer : Except Error (Plan d)} {after : Context d}
    (h : context.plan disk = (answer, after)) : after.injections = context.injections := by
  rw [eq_of_plan h]

/-- Counting an event has no part in the plan. -/
theorem plan_numbered (context : Context d) (disk : Disk) (number : UInt64) :
    (context.numbered number).plan disk =
      ((context.plan disk).1, (context.plan disk).2.numbered number) := by
  unfold plan numbered
  dsimp only
  split
  · rfl
  · split
    · rfl
    · split <;> rfl

/-- A plan is handed out only where outcomes have a path. -/
theorem outcomePath_of_plan {plan : Plan d} {after : Context d}
    (h : context.plan disk = (.ok plan, after)) :
    ∃ path, context.settings.outcomePath = some path := by
  unfold Context.plan Settings.requireOutcomePath at h
  cases hp : context.settings.outcomePath with
  | none => simp [hp] at h
  | some path => exact ⟨path, rfl⟩

/-- A plan that was handed out stays in the cell. -/
theorem cell_of_plan {plan : Plan d} {after : Context d}
    (h : context.plan disk = (.ok plan, after)) : after.cell.plan? = some plan := by
  obtain ⟨outcomePath, hp⟩ := outcomePath_of_plan h
  simp only [Context.plan, Settings.requireOutcomePath, hp] at h
  cases filled : context.cell.plan? with
  | some held =>
      simp only [filled, Prod.mk.injEq, Except.ok.injEq] at h
      rw [← h.2, filled, h.1]
  | none =>
      simp only [filled] at h
      cases path : context.settings.requirePlanPath with
      | error e => simp [path] at h
      | ok planPath =>
          simp only [path, Prod.mk.injEq] at h
          rw [← h.2]
          exact PlanCell.plan?_fetch_of_ok h.1

/-- A plan that is in the cell stays there. -/
theorem plan?_of_plan {answer : Except Error (Plan d)} {after : Context d} {plan : Plan d}
    (h : context.plan disk = (answer, after)) (held : context.cell.plan? = some plan) :
    after.cell.plan? = some plan := by
  unfold Context.plan at h
  split at h
  · cases h
    exact held
  · simp only [held] at h
    cases h
    exact held

/-- From a filled cell the plan is handed out whatever is on the disk. -/
theorem plan_of_cell {plan : Plan d} {path : String} (filled : context.cell.plan? = some plan)
    (outcomePath : context.settings.outcomePath = some path) (disk : Disk) :
    context.plan disk = (.ok plan, context) := by
  simp only [Context.plan, Settings.requireOutcomePath, outcomePath, filled]

/-! ### Every report with an event -/

theorem count_eq_numbered (context : Context d) :
    context.count = context.numbered (context.events + 1) :=
  rfl

theorem profile_eq (context : Context d) (disk : Disk) (event : Event d) :
    context.profile disk event =
      match context.attemptLog disk (context.events + 1) event with
      | .error e => ⟨.error e, some event, context.numbered (context.events + 1), disk⟩
      | .ok longer => ⟨.ok (), some event, context.numbered (context.events + 1), longer⟩ := by
  unfold profile attemptLog
  rw [count_eq_numbered]
  dsimp only [numbered]
  cases context.settings.requireProfilePath with
  | error e => rfl
  | ok path =>
      simp only [Except.ok_bind]
      rfl

theorem profile_serves (mode : context.mode = .ok .profile) (disk : Disk) (event : Event d) :
    context.Serves disk (context.events + 1) event (context.profile disk event) := by
  rw [profile_eq]
  cases attempt : context.attemptLog disk (context.events + 1) event with
  | error e => exact .unlogged mode attempt
  | ok longer => exact .logged mode attempt

/-- How a fault that was applied is recorded. -/
theorem record_eq {path : String} (outcomePath : context.settings.outcomePath = some path)
    (disk : Disk) (fault : Fault d) (struck : Event d) (observed : List (String × String)) :
    context.record disk fault struck observed =
      match disk.write? path (Outcome.ofFault observed fault).bytes with
      | none => ⟨.error (.outcomeUnwritable path), some struck, context.credited, disk⟩
      | some written => ⟨.ok (), some struck, context.credited, written⟩ := by
  have there : context.settings.requireOutcomePath = .ok path := by
    rw [Settings.requireOutcomePath, outcomePath]
  simp only [record, there, Outcome.save, Outcome.bytes]
  cases disk.write? path (Outcome.ofFault observed fault).render.toUTF8 with
  | none => rfl
  | some written => rfl

theorem record_serves {plan : Plan d} {after : Context d} {fault : Fault d}
    (mode : context.mode = .ok .inject) (planned : context.plan disk = (.ok plan, after))
    (aimed : plan.find number event.identity = some fault) (fits : fault.Fits event) :
    context.Serves disk number event
      ((after.numbered number).record disk fault (fault.corrupt event)
        (fault.sights event (fault.corrupt event))) := by
  obtain ⟨path, hp⟩ := outcomePath_of_plan planned
  have there : (after.numbered number).settings.outcomePath = some path := by
    rw [numbered_settings, settings_of_plan planned, hp]
  rw [record_eq there, ← Fault.outcome]
  cases saved : disk.write? path (fault.outcome event).bytes with
  | none => exact .unrecorded mode planned aimed fits hp saved
  | some written => exact .recorded mode planned aimed fits hp saved

theorem hook_of_inject (mode : context.mode = .ok .inject) (disk : Disk) (event : Event d) :
    context.hook disk (some event) = context.inject disk event := by
  simp only [hook, mode]

theorem inject_eq {plan : Plan d} {after : Context d}
    (planned : context.plan disk = (.ok plan, after)) (event : Event d) :
    context.inject disk event =
      match plan.find (context.events + 1) event.identity with
      | none => ⟨.ok (), some event, after.numbered (context.events + 1), disk⟩
      | some fault =>
        match fault.strike (context.events + 1) event with
        | .error e => ⟨.error e, some event, after.numbered (context.events + 1), disk⟩
        | .ok (struck, observed) =>
          (after.numbered (context.events + 1)).record disk fault struck observed := by
  rw [inject, count_eq_numbered, plan_numbered, planned]
  simp only [Plan.findBy_hasIdentity]
  rfl

theorem inject_of_refused {e : Error} {after : Context d}
    (refused : context.plan disk = (.error e, after)) (event : Event d) :
    context.inject disk event =
      ⟨.error e, some event, after.numbered (context.events + 1), disk⟩ := by
  rw [inject, count_eq_numbered, plan_numbered, refused]

theorem inject_serves (mode : context.mode = .ok .inject) (disk : Disk) (event : Event d) :
    context.Serves disk (context.events + 1) event (context.inject disk event) := by
  rcases planned : context.plan disk with ⟨answer, after⟩
  cases answer with
  | error e =>
      rw [inject_of_refused planned]
      exact .unplanned mode planned
  | ok plan =>
      rw [inject_eq planned]
      cases aimed : plan.find (context.events + 1) event.identity with
      | none => exact .spared mode planned aimed
      | some fault =>
          cases answered : fault.strike (context.events + 1) event with
          | error e =>
              simp only [answered]
              exact .missed mode planned aimed answered
          | ok answer =>
              obtain ⟨struck, observed⟩ := answer
              obtain ⟨fits, rfl, rfl⟩ := Fault.strike_eq_ok_iff.1 answered
              simp only [answered]
              exact record_serves mode planned aimed fits

/-- A report with an event is served under the number after the last one. -/
theorem hook_serves (context : Context d) (disk : Disk) (event : Event d) :
    context.Serves disk (context.events + 1) event (context.hook disk (some event)) := by
  cases mode : context.mode with
  | error e =>
      simp only [hook, mode]
      exact .invalid mode
  | ok m =>
      cases m with
      | disabled =>
          simp only [hook, mode]
          exact .disabled mode
      | profile =>
          simp only [hook, mode]
          exact profile_serves mode disk event
      | inject =>
          rw [hook_of_inject mode]
          exact inject_serves mode disk event

/-! ### Settings and plan after a report -/

/-- No report changes the settings. -/
theorem settings_hook (context : Context d) (disk : Disk) (report : Option (Event d)) :
    (context.hook disk report).context.settings = context.settings := by
  cases report with
  | none => rfl
  | some event =>
      have served := context.hook_serves disk event
      generalize context.hook disk (some event) = reply at served
      cases served with
      | invalid => rfl
      | disabled => rfl
      | unlogged => rfl
      | logged => rfl
      | unplanned _ planned => simpa using settings_of_plan planned
      | spared _ planned => simpa using settings_of_plan planned
      | missed _ planned => simpa using settings_of_plan planned
      | unrecorded _ planned => simpa using settings_of_plan planned
      | recorded _ planned => simpa using settings_of_plan planned

/-- The cell after a report: only an injecting context asks for the plan. -/
theorem cell_hook (context : Context d) (disk : Disk) (event : Event d) :
    (context.hook disk (some event)).context.cell = context.cell ∧
        context.mode ≠ .ok .inject ∨
      (context.hook disk (some event)).context.cell = (context.plan disk).2.cell ∧
        context.mode = .ok .inject := by
  have served := context.hook_serves disk event
  generalize context.hook disk (some event) = reply at served
  cases served with
  | invalid mode => exact Or.inl ⟨rfl, by simp [mode]⟩
  | disabled mode => exact Or.inl ⟨rfl, by simp [mode]⟩
  | unlogged mode => exact Or.inl ⟨rfl, by simp [mode]⟩
  | logged mode => exact Or.inl ⟨rfl, by simp [mode]⟩
  | unplanned mode planned => exact Or.inr ⟨by rw [planned]; rfl, mode⟩
  | spared mode planned => exact Or.inr ⟨by rw [planned]; rfl, mode⟩
  | missed mode planned => exact Or.inr ⟨by rw [planned]; rfl, mode⟩
  | unrecorded mode planned => exact Or.inr ⟨by rw [planned]; rfl, mode⟩
  | recorded mode planned => exact Or.inr ⟨by rw [planned]; rfl, mode⟩

theorem plan?_hook {plan : Plan d} (held : context.cell.plan? = some plan) (disk : Disk)
    (event : Event d) : (context.hook disk (some event)).context.cell.plan? = some plan := by
  obtain ⟨same, -⟩ | ⟨asked, -⟩ := context.cell_hook disk event
  · rw [same, held]
  · rw [asked]
    exact plan?_of_plan rfl held

/-- An injecting context keeps the plan that it hands out. -/
theorem plan?_hook_of_inject {plan : Plan d} (mode : context.mode = .ok .inject)
    (given : (context.plan disk).1 = .ok plan) (event : Event d) :
    (context.hook disk (some event)).context.cell.plan? = some plan := by
  have planned : context.plan disk = (.ok plan, (context.plan disk).2) := Prod.ext given rfl
  obtain ⟨-, other⟩ | ⟨asked, -⟩ := context.cell_hook disk event
  · exact absurd mode other
  · rw [asked]
    exact cell_of_plan planned

end FaultReplay.Context
