import FaultReplay.Proofs.Context.Footprint

/-!
# What a report leaves behind

A report either leaves the event and the count of applied faults alone, or it carries out one fault
of the plan completely and counts it. In the second case the outcome is written last, so the one
thing that can still go wrong then is that write.
-/

namespace FaultReplay

variable {d : Domain} {context : Context d} {disk : Disk} {event : Event d} {number : UInt64}
  {fault : Fault d} {reply : Reply d}

/-- The fault that the plan of a context has for its next event. -/
def Context.Aims (context : Context d) (disk : Disk) (event : Event d) (fault : Fault d) : Prop :=
  ∃ plan, (context.plan disk).1 = .ok plan ∧
    plan.find (context.events + 1) event.identity = some fault

/-- A report that carried out a fault: the fault was aimed at the event, its complete effect is
there, and it is counted. -/
structure Reply.Strikes (reply : Reply d) (context : Context d) (disk : Disk) (event : Event d)
    (fault : Fault d) : Prop where
  mode : context.mode = .ok .inject
  aims : context.Aims disk event fault
  fits : fault.Fits event
  event : reply.event = some (fault.corrupt event)
  injections : reply.context.injections = context.injections + 1

/-- A report that did nothing to its event. -/
structure Reply.Spares (reply : Reply d) (context : Context d) (report : Option (Event d)) :
    Prop where
  event : reply.event = report
  injections : reply.context.injections = context.injections

/-- How the writing of an outcome ended: the call succeeded and the disk has the record, or the call
failed for this reason and the disk is as it was. -/
inductive Reply.Records (reply : Reply d) (disk : Disk) (path : String) (outcome : Outcome) : Prop
  | written (result : reply.result = .ok ())
      (saved : disk.write? path outcome.bytes = some reply.disk)
  | refused (result : reply.result = .error (.outcomeUnwritable path)) (kept : reply.disk = disk)
      (unsaved : disk.write? path outcome.bytes = none)

namespace Context

theorem strikes_of_plan {plan : Plan d} {after : Context d} (mode : context.mode = .ok .inject)
    (planned : context.plan disk = (.ok plan, after))
    (aimed : plan.find (context.events + 1) event.identity = some fault)
    (fits : fault.Fits event) (result : Except Error Unit) (left : Disk) :
    (Reply.mk result (some (fault.corrupt event))
      (after.numbered (context.events + 1)).credited left).Strikes context disk event fault where
  mode := mode
  aims := ⟨plan, by rw [planned], aimed⟩
  fits := fits
  event := rfl
  injections := by simp [injections_of_plan planned]

/-- A report with an event spares it, and if it fails the disk is as it was; or it strikes the event
and goes on to record that. -/
theorem hook_some (context : Context d) (disk : Disk) (event : Event d) :
    ((context.hook disk (some event)).Spares context (some event) ∧
      ∀ e, (context.hook disk (some event)).result = .error e →
        (context.hook disk (some event)).disk = disk) ∨
    ∃ fault path, (context.hook disk (some event)).Strikes context disk event fault ∧
      context.settings.outcomePath = some path ∧
      (context.hook disk (some event)).Records disk path (fault.outcome event) := by
  have served := context.hook_serves disk event
  generalize context.hook disk (some event) = reply at served
  cases served with
  | invalid => exact Or.inl ⟨⟨rfl, rfl⟩, fun _ _ => rfl⟩
  | disabled => exact Or.inl ⟨⟨rfl, rfl⟩, fun _ _ => rfl⟩
  | unlogged => exact Or.inl ⟨⟨rfl, rfl⟩, fun _ _ => rfl⟩
  | logged => exact Or.inl ⟨⟨rfl, rfl⟩, fun _ failed => by cases failed⟩
  | unplanned _ planned =>
      exact Or.inl ⟨⟨rfl, by simp [injections_of_plan planned]⟩, fun _ _ => rfl⟩
  | spared _ planned =>
      exact Or.inl ⟨⟨rfl, by simp [injections_of_plan planned]⟩, fun _ _ => rfl⟩
  | missed _ planned =>
      exact Or.inl ⟨⟨rfl, by simp [injections_of_plan planned]⟩, fun _ _ => rfl⟩
  | unrecorded mode planned aimed fits outcomePath refused =>
      exact Or.inr ⟨_, _, strikes_of_plan mode planned aimed fits _ _, outcomePath,
        .refused rfl rfl refused⟩
  | recorded mode planned aimed fits outcomePath saved =>
      exact Or.inr ⟨_, _, strikes_of_plan mode planned aimed fits _ _, outcomePath,
        .written rfl saved⟩

/-- The fault that a report strikes with has the number of the event for its trigger. -/
theorem Aims.trigger (h : context.Aims disk event fault) :
    fault.trigger = context.events + 1 := by
  obtain ⟨plan, -, found⟩ := h
  exact congrArg Prod.fst (Plan.find_eq_some_iff.1 found).2

theorem Aims.unique {other : Fault d} (h : context.Aims disk event fault)
    (ho : context.Aims disk event other) : other = fault := by
  obtain ⟨plan, given, found⟩ := h
  obtain ⟨same, givenToo, foundToo⟩ := ho
  obtain rfl := Except.ok.inj (given.symm.trans givenToo)
  exact Option.some.inj (foundToo.symm.trans found)

/-- An injecting context strikes an event exactly with the fault aimed at it, if that fits. -/
theorem strikes_iff :
    (context.hook disk (some event)).Strikes context disk event fault ↔
      context.mode = .ok .inject ∧ context.Aims disk event fault ∧ fault.Fits event := by
  constructor
  · intro struck
    exact ⟨struck.mode, struck.aims, struck.fits⟩
  · rintro ⟨mode, ⟨plan, given, found⟩, fits⟩
    have planned : context.plan disk = (.ok plan, (context.plan disk).2) := Prod.ext given rfl
    obtain ⟨path, outcomePath⟩ := outcomePath_of_plan planned
    have there : ((context.plan disk).2.numbered (context.events + 1)).settings.outcomePath =
        some path := by rw [numbered_settings, settings_of_plan planned, outcomePath]
    have applied : fault.strike (context.events + 1) event =
        .ok (fault.corrupt event, fault.sights event (fault.corrupt event)) :=
      Fault.strike_eq_ok_iff.2 ⟨fits, rfl, rfl⟩
    rw [hook_of_inject mode, inject_eq planned, found]
    simp only [applied]
    rw [record_eq there]
    split
    · exact strikes_of_plan mode planned found fits _ _
    · exact strikes_of_plan mode planned found fits _ _

/-- The plan that a fault was taken from is in the cell afterwards. -/
theorem exists_plan?_of_strikes
    (h : (context.hook disk (some event)).Strikes context disk event fault) :
    ∃ plan, (context.hook disk (some event)).context.cell.plan? = some plan ∧
      fault ∈ plan.faults := by
  obtain ⟨plan, given, found⟩ := h.aims
  exact ⟨plan, plan?_hook_of_inject h.mode given event, (Plan.find_eq_some_iff.1 found).1⟩

/-- A report that strikes does not spare: the count tells them apart. -/
theorem not_spares_of_strikes {report : Option (Event d)}
    (h : reply.Strikes context disk event fault) : ¬ reply.Spares context report := by
  intro spared
  have same := h.injections.symm.trans spared.injections
  simp at same

/-! ### Paths -/

/-- A path that takes bytes takes them after every report as well. -/
theorem canWrite_hook {path : String} (writable : disk.CanWrite path) (context : Context d)
    (event : Event d) : (context.hook disk (some event)).disk.CanWrite path :=
  ((context.agreeOn_hook disk event).canWrite_iff path).1 writable

end Context

end FaultReplay
