import FaultReplay.Counter
import FaultReplay.Instruction.Strike
import FaultReplay.Memory.Strike
import FaultReplay.Outcome
import FaultReplay.Plan.Cell
import FaultReplay.Profile.Log
import FaultReplay.Settings

/-!
# Contexts

A context is what a domain carries through a run: its settings, its event counter, its plan once
that is loaded, and the number of faults applied. The simulator hands every event to `Context.hook`,
which answers with the event as it goes on, the context and the disk. Every event is counted exactly
once, whatever becomes of it; a report without an event changes nothing.
-/

namespace FaultReplay

variable {d : Domain}

/-- The event after a fault struck it, with the values seen at its target. -/
def Fault.strike : {d : Domain} → UInt64 → Fault d → Event d →
    Except Error (Event d × List (String × String))
  | .instruction, sequence, fault, event => Instruction.strike sequence fault event
  | .memory, sequence, fault, event => Memory.strike sequence fault event

/-- What a domain carries through a run. -/
structure Context (d : Domain) where
  settings : Settings
  cell : PlanCell d := {}
  counter : Counter := {}
  /-- The number of faults applied so far. -/
  injections : UInt64 := 0
  deriving DecidableEq

/-- What comes back from a report to a context. -/
structure Reply (d : Domain) where
  result : Except Error Unit
  event : Option (Event d)
  context : Context d
  disk : Disk

namespace Context

/-- A context at the start of a run. -/
def ofSettings (settings : Settings) : Context d :=
  { settings }

/-- A context whose plan is already there, so that no plan file is read. -/
def withPlan (settings : Settings) (plan : Plan d) : Context d :=
  { settings, cell := ⟨some plan⟩ }

/-- The number of events so far, which is the number of the last one. -/
def events (context : Context d) : UInt64 :=
  context.counter.current

/-- Counts an event. -/
def count (context : Context d) : Context d :=
  { context with counter := context.counter.advance }

/-- The mode that events are handled in. -/
def mode (context : Context d) : Except Error Mode :=
  context.settings.resolveMode

/-- Counts an event and appends its entry to the profile log. -/
def profile (context : Context d) (disk : Disk) (event : Event d) : Reply d :=
  let context := context.count
  let line := (Entry.observe context.events event).render
  match context.settings.requireProfilePath with
  | .error e => ⟨.error e, some event, context, disk⟩
  | .ok path =>
    match Profile.append disk path line with
    | .error e => ⟨.error e, some event, context, disk⟩
    | .ok disk => ⟨.ok (), some event, context, disk⟩

/-- The plan of the run, loaded on the first request, and the context afterwards. Without a path for
outcomes there is no plan either, so that no fault is applied that could not be recorded. -/
def plan (context : Context d) (disk : Disk) : Except Error (Plan d) × Context d :=
  match context.settings.requireOutcomePath with
  | .error e => (.error e, context)
  | .ok _ =>
    match context.cell.plan? with
    | some plan => (.ok plan, context)
    | none =>
      match context.settings.requirePlanPath with
      | .error e => (.error e, context)
      | .ok path =>
        let (plan, cell) := context.cell.fetch disk path
        (plan, { context with cell })

/-- Counts an applied fault and writes its outcome. -/
def record (context : Context d) (disk : Disk) (fault : Fault d) (struck : Event d)
    (observed : List (String × String)) : Reply d :=
  let context := { context with injections := context.injections + 1 }
  match context.settings.requireOutcomePath with
  | .error e => ⟨.error e, some struck, context, disk⟩
  | .ok path =>
    match (Outcome.ofFault observed fault).save disk path with
    | .error e => ⟨.error e, some struck, context, disk⟩
    | .ok disk => ⟨.ok (), some struck, context, disk⟩

/-- Counts an event and applies the fault that the plan has for it. -/
def inject (context : Context d) (disk : Disk) (event : Event d) : Reply d :=
  let context := context.count
  match context.plan disk with
  | (.error e, context) => ⟨.error e, some event, context, disk⟩
  | (.ok plan, context) =>
    match plan.findBy context.events fun identity => Event.hasIdentity event identity with
    | none => ⟨.ok (), some event, context, disk⟩
    | some fault =>
      match fault.strike context.events event with
      | .error e => ⟨.error e, some event, context, disk⟩
      | .ok (struck, observed) => context.record disk fault struck observed

/-- Handles a report from the simulator. -/
def hook (context : Context d) (disk : Disk) : Option (Event d) → Reply d
  | none => ⟨.ok (), none, context, disk⟩
  | some event =>
    match context.mode with
    | .error e => ⟨.error e, some event, context.count, disk⟩
    | .ok .disabled => ⟨.ok (), some event, context.count, disk⟩
    | .ok .profile => context.profile disk event
    | .ok .inject => context.inject disk event

end Context

end FaultReplay
