import FaultReplay.Proofs.Context.Atomicity

/-!
# What a plan decides

A report to an injecting context that has its plan, and a path for outcomes that takes bytes, does
what the plan decides for the number of the event and the event. Nothing else that the context or
the disk holds has a part in it.
-/

namespace FaultReplay

variable {d : Domain} {context : Context d} {disk : Disk} {event : Event d} {plan : Plan d}
  {number : UInt64} {outcomes : String}

/-- What becomes of an event: the answer, the event as it goes on and the outcome of the fault that
was applied, if one was. -/
structure Verdict (d : Domain) where
  result : Except Error Unit
  event : Event d
  outcome? : Option Outcome

namespace Plan

/-- What a plan decides for the event with this number. -/
def verdict (plan : Plan d) (number : UInt64) (event : Event d) : Verdict d :=
  match plan.find number event.identity with
  | none => ⟨.ok (), event, none⟩
  | some fault =>
    match fault.strike number event with
    | .error e => ⟨.error e, event, none⟩
    | .ok (struck, observed) => ⟨.ok (), struck, some (.ofFault observed fault)⟩

theorem verdict_of_find_eq_none (unaimed : plan.find number event.identity = none) :
    plan.verdict number event = ⟨.ok (), event, none⟩ := by
  simp only [verdict, unaimed]

theorem verdict_of_refused {fault : Fault d} {e : Error}
    (aimed : plan.find number event.identity = some fault)
    (refused : fault.strike number event = .error e) :
    plan.verdict number event = ⟨.error e, event, none⟩ := by
  simp only [verdict, aimed, refused]

theorem verdict_of_fits {fault : Fault d} (aimed : plan.find number event.identity = some fault)
    (fits : fault.Fits event) :
    plan.verdict number event = ⟨.ok (), fault.corrupt event, some (fault.outcome event)⟩ := by
  have applied : fault.strike number event =
      .ok (fault.corrupt event, fault.sights event (fault.corrupt event)) :=
    Fault.strike_eq_ok_iff.2 ⟨fits, rfl, rfl⟩
  simp only [verdict, aimed, applied]
  rfl

end Plan

/-- A reply that does what was decided: if there is an outcome, it is what the file for outcomes
holds and the fault is counted, and otherwise the disk and the count are as they were. -/
structure Reply.Follows (reply : Reply d) (verdict : Verdict d) (context : Context d) (disk : Disk)
    (outcomes : String) : Prop where
  result : reply.result = verdict.result
  event : reply.event = some verdict.event
  injections : reply.context.injections =
    context.injections + UInt64.ofNat verdict.outcome?.toList.length
  kept : verdict.outcome? = none → reply.disk = disk
  saved : ∀ outcome, verdict.outcome? = some outcome →
    disk.write? outcomes outcome.bytes = some reply.disk ∧
      reply.disk.read? outcomes = some outcome.bytes

namespace Context

/-- If no fault was applied, everything is as it was. -/
theorem untouched_of_kept {verdict : Verdict d} {reply : Reply d}
    (follows : reply.Follows verdict context disk outcomes) (kept : verdict.outcome? = none)
    (same : verdict.event = event) : reply.Untouched context disk (some event) where
  event := follows.event.trans (congrArg some same)
  injections := by simpa [kept] using follows.injections
  disk := follows.kept kept

theorem follows_verdict (mode : context.mode = .ok .inject)
    (given : (context.plan disk).1 = .ok plan)
    (outcomesAt : context.settings.outcomePath = some outcomes) (writable : disk.CanWrite outcomes)
    (event : Event d) :
    (context.hook disk (some event)).Follows (plan.verdict (context.events + 1) event) context
      disk outcomes := by
  have known {held : Plan d} {after : Context d}
      (planned : context.plan disk = (.ok held, after)) : held = plan := by
    rw [planned] at given
    exact Except.ok.inj given
  have served := context.hook_serves disk event
  generalize context.hook disk (some event) = reply at served
  cases served with
  | invalid other => cases mode.symm.trans other
  | disabled other => cases mode.symm.trans other
  | unlogged other => cases mode.symm.trans other
  | logged other => cases mode.symm.trans other
  | unplanned _ refused =>
      rw [refused] at given
      cases given
  | spared _ planned unaimed =>
      obtain rfl := known planned
      rw [Plan.verdict_of_find_eq_none unaimed]
      exact ⟨rfl, rfl, by simp [injections_of_plan planned], fun _ => rfl, nofun⟩
  | missed _ planned aimed refused =>
      obtain rfl := known planned
      rw [Plan.verdict_of_refused aimed refused]
      exact ⟨rfl, rfl, by simp [injections_of_plan planned], fun _ => rfl, nofun⟩
  | @unrecorded _ _ fault _ _ _ _ _ outcomePath refused =>
      obtain rfl := Option.some.inj (outcomesAt.symm.trans outcomePath)
      have taken := (Disk.isSome_write?_iff (fault.bytes_outcome_ne_empty event)).2 writable
      rw [refused] at taken
      cases taken
  | @recorded _ _ fault _ _ _ planned aimed fits outcomePath saved =>
      obtain rfl := known planned
      obtain rfl := Option.some.inj (outcomesAt.symm.trans outcomePath)
      have read := Disk.read?_of_write? (fault.bytes_outcome_ne_empty event) saved
      rw [Plan.verdict_of_fits aimed fits]
      refine ⟨rfl, rfl, by simp [injections_of_plan planned], nofun, ?_⟩
      rintro outcome ⟨rfl⟩
      exact ⟨saved, read⟩

/-- An event that no fault of the plan is aimed at is let through. -/
theorem untouched_of_find_eq_none (mode : context.mode = .ok .inject)
    (given : (context.plan disk).1 = .ok plan)
    (outcomesAt : context.settings.outcomePath = some outcomes) (writable : disk.CanWrite outcomes)
    (unaimed : plan.find (context.events + 1) event.identity = none) :
    (context.hook disk (some event)).result = .ok () ∧
      (context.hook disk (some event)).Untouched context disk (some event) := by
  have follows := context.follows_verdict mode given outcomesAt writable event
  rw [Plan.verdict_of_find_eq_none unaimed] at follows
  exact ⟨follows.result, untouched_of_kept follows rfl rfl⟩

/-- A fault that cannot be applied is answered with the reason, and nothing else happens. -/
theorem untouched_of_refused {fault : Fault d} {e : Error} (mode : context.mode = .ok .inject)
    (given : (context.plan disk).1 = .ok plan)
    (outcomesAt : context.settings.outcomePath = some outcomes) (writable : disk.CanWrite outcomes)
    (aimed : plan.find (context.events + 1) event.identity = some fault)
    (refused : fault.strike (context.events + 1) event = .error e) :
    (context.hook disk (some event)).result = .error e ∧
      (context.hook disk (some event)).Untouched context disk (some event) := by
  have follows := context.follows_verdict mode given outcomesAt writable event
  rw [Plan.verdict_of_refused aimed refused] at follows
  exact ⟨follows.result, untouched_of_kept follows rfl rfl⟩

end Context

end FaultReplay
