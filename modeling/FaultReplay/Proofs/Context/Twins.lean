import FaultReplay.Proofs.Context.Loading
import FaultReplay.Proofs.Context.Verdict
import FaultReplay.Proofs.Disk.Agreement
import FaultReplay.Proofs.Plan.Order
import FaultReplay.Proofs.Plan.Printing

/-!
# Contexts that differ in their plans

A context decides for an event what its plan does, and carries that out with nothing but its other
settings and counts. So two contexts that are equal apart from their plans answer an event alike if
they decide alike for it, even on different disks: it is enough that writing keeps the disks
related.
-/

namespace FaultReplay

variable {d : Domain}

/-! ### Plans that decide alike -/

/-- Plans with the same decision for every event, whatever its number. -/
def Plan.Alike (p q : Plan d) : Prop :=
  ∀ (number : UInt64) (event : Event d), p.verdict number event = q.verdict number event

theorem Plan.alike_of_perm {p q : Plan d} (order : p.faults.Perm q.faults) : p.Alike q := by
  intro number event
  unfold verdict
  rw [find_eq_of_perm order]

theorem Fault.strike_settled (fault : Fault d) (number : UInt64) (event : Event d) :
    fault.settled.strike number event = fault.strike number event := by
  cases d <;> rfl

theorem Fault.echo_settled (fault : Fault d) : fault.settled.echo = fault.echo := by
  cases d <;> rfl

theorem Plan.find_settled (plan : Plan d) (number : UInt64) (identity : Identity d) :
    plan.settled.find number identity = (plan.find number identity).map Fault.settled := by
  have test : (fun fault : Fault d => decide (fault.target = (number, identity))) ∘ Fault.settled =
      fun fault => decide (fault.target = (number, identity)) := by
    funext fault
    rw [Function.comp_apply, Fault.target_settled]
  rw [find_eq_find?, find_eq_find?, settled, List.find?_map, test]

/-- A distance of 0 decides nothing else than a missing one. -/
theorem Plan.alike_settled (plan : Plan d) : plan.Alike plan.settled := by
  intro number event
  unfold verdict
  rw [find_settled]
  cases plan.find number event.identity with
  | none => rfl
  | some fault =>
      simp only [Option.map_some, Fault.strike_settled, Outcome.ofFault, Fault.echo_settled]

/-! ### Deciding and carrying out -/

namespace Context

variable {context one two : Context d} {disk other : Disk} {event : Event d}
  {R : Disk → Disk → Prop}

/-- What a context decides for its next event. Without a plan that is the reason why there is
none. -/
def verdict (context : Context d) (disk : Disk) (event : Event d) : Verdict d :=
  match (context.plan disk).1 with
  | .error e => ⟨.error e, event, none⟩
  | .ok plan => plan.verdict (context.events + 1) event

/-- The reply of a context that carries a decision out: an outcome is counted and written. -/
def carryOut (context : Context d) (disk : Disk) (verdict : Verdict d) : Reply d :=
  match verdict.outcome?, context.settings.outcomePath with
  | some outcome, some path =>
    match disk.write? path outcome.bytes with
    | none => ⟨.error (.outcomeUnwritable path), some verdict.event, context.credited, disk⟩
    | some written => ⟨.ok (), some verdict.event, context.credited, written⟩
  | _, _ => ⟨verdict.result, some verdict.event, context, disk⟩

/-- To inject is to decide first and to carry that out afterwards. -/
theorem inject_eq_carryOut (context : Context d) (disk : Disk) (event : Event d) :
    context.inject disk event =
      ((context.plan disk).2.numbered (context.events + 1)).carryOut disk
        (context.verdict disk event) := by
  rcases planned : context.plan disk with ⟨answer, after⟩
  cases answer with
  | error e =>
      rw [inject_of_refused planned, verdict, planned]
      rfl
  | ok plan =>
      rw [inject_eq planned, verdict, planned]
      simp only [Plan.verdict]
      cases plan.find (context.events + 1) event.identity with
      | none => rfl
      | some fault =>
          cases answered : fault.strike (context.events + 1) event with
          | error e => simp only [answered, carryOut]
          | ok answer =>
              obtain ⟨path, there⟩ := outcomePath_of_plan planned
              have kept : (after.numbered (context.events + 1)).settings.outcomePath =
                  some path := by rw [numbered_settings, settings_of_plan planned, there]
              cases saved : disk.write? path (Outcome.ofFault answer.2 fault).bytes with
              | none => simp only [answered, record_eq kept, carryOut, kept, saved]
              | some written => simp only [answered, record_eq kept, carryOut, kept, saved]

/-! ### One report to two contexts -/

/-- What a context has apart from its plan and the path that a plan would be read from. -/
def withoutPlan (context : Context d) : Context d :=
  { context with settings := { context.settings with planPath := none }, cell := {} }

@[simp] theorem withoutPlan_events (context : Context d) :
    context.withoutPlan.events = context.events := rfl

@[simp] theorem withoutPlan_injections (context : Context d) :
    context.withoutPlan.injections = context.injections := rfl

@[simp] theorem withoutPlan_mode (context : Context d) :
    context.withoutPlan.mode = context.mode := rfl

@[simp] theorem withoutPlan_profilePath (context : Context d) :
    context.withoutPlan.settings.profilePath = context.settings.profilePath := rfl

@[simp] theorem withoutPlan_outcomePath (context : Context d) :
    context.withoutPlan.settings.outcomePath = context.settings.outcomePath := rfl

theorem events_eq_of_twin (twin : one.withoutPlan = two.withoutPlan) :
    one.events = two.events := by
  rw [← withoutPlan_events one, twin, withoutPlan_events]

theorem injections_eq_of_twin (twin : one.withoutPlan = two.withoutPlan) :
    one.injections = two.injections := by
  rw [← withoutPlan_injections one, twin, withoutPlan_injections]

theorem mode_eq_of_twin (twin : one.withoutPlan = two.withoutPlan) : one.mode = two.mode := by
  rw [← withoutPlan_mode one, twin, withoutPlan_mode]

theorem outcomePath_eq_of_twin (twin : one.withoutPlan = two.withoutPlan) :
    one.settings.outcomePath = two.settings.outcomePath := by
  rw [← withoutPlan_outcomePath one, twin, withoutPlan_outcomePath]

theorem withoutPlan_plan (context : Context d) (disk : Disk) :
    (context.plan disk).2.withoutPlan = context.withoutPlan := by
  rcases planned : context.plan disk with ⟨answer, after⟩
  rw [eq_of_plan planned]
  rfl

end Context

/-- Replies with the same result and event, from contexts that are equal apart from their plans and
on related disks. -/
structure Reply.Matches (R : Disk → Disk → Prop) (reply other : Reply d) : Prop where
  result : reply.result = other.result
  event : reply.event = other.event
  twin : reply.context.withoutPlan = other.context.withoutPlan
  disk : R reply.disk other.disk

namespace Context

variable {context one two : Context d} {disk other : Disk} {event : Event d}
  {R : Disk → Disk → Prop}

theorem numbered_twin (twin : one.withoutPlan = two.withoutPlan) (number : UInt64) :
    (one.numbered number).withoutPlan = (two.numbered number).withoutPlan := by
  change one.withoutPlan.numbered number = two.withoutPlan.numbered number
  rw [twin]

theorem credited_twin (twin : one.withoutPlan = two.withoutPlan) :
    one.credited.withoutPlan = two.credited.withoutPlan := by
  change one.withoutPlan.credited = two.withoutPlan.credited
  rw [twin]

theorem carryOut_matches (congruent : Disk.Congruence R)
    (twin : one.withoutPlan = two.withoutPlan) (near : R disk other) (verdict : Verdict d) :
    (one.carryOut disk verdict).Matches R (two.carryOut other verdict) := by
  unfold carryOut
  rw [← outcomePath_eq_of_twin twin]
  cases verdict.outcome? with
  | none => exact ⟨rfl, rfl, twin, near⟩
  | some outcome =>
      cases one.settings.outcomePath with
      | none => exact ⟨rfl, rfl, twin, near⟩
      | some path =>
          have written := congruent.write near path outcome.bytes
          dsimp only
          generalize disk.write? path outcome.bytes = here at written ⊢
          generalize other.write? path outcome.bytes = there at written ⊢
          cases written with
          | none => exact ⟨rfl, rfl, credited_twin twin, near⟩
          | some after => exact ⟨rfl, rfl, credited_twin twin, after⟩

theorem profile_matches (congruent : Disk.Congruence R)
    (twin : one.withoutPlan = two.withoutPlan) (near : R disk other) (event : Event d) :
    (one.profile disk event).Matches R (two.profile other event) := by
  have counted := numbered_twin twin (one.events + 1)
  have path : one.settings.profilePath = two.settings.profilePath := by
    rw [← withoutPlan_profilePath one, twin, withoutPlan_profilePath]
  rw [profile_eq, profile_eq, ← events_eq_of_twin twin]
  unfold attemptLog Settings.requireProfilePath
  rw [← path]
  cases one.settings.profilePath with
  | none => exact ⟨rfl, rfl, counted, near⟩
  | some log =>
      simp only [Except.ok_bind, Profile.append]
      have appended := congruent.append near log
        ((Entry.observe (one.events + 1) event).render ++ "\n").toUTF8
      generalize disk.append log _ = here at appended ⊢
      generalize other.append log _ = there at appended ⊢
      cases appended with
      | ok after => exact ⟨rfl, rfl, counted, after⟩
      | error failure =>
          cases failure with
          | unopened => exact ⟨rfl, rfl, counted, near⟩
          | unwritten => exact ⟨rfl, rfl, counted, near⟩

/-- Contexts that are equal apart from their plans answer an event alike if they decide alike for
it, where the mode lets them decide. -/
theorem hook_matches (congruent : Disk.Congruence R) (twin : one.withoutPlan = two.withoutPlan)
    (near : R disk other) (event : Event d)
    (same : one.mode = .ok .inject → one.verdict disk event = two.verdict other event) :
    (one.hook disk (some event)).Matches R (two.hook other (some event)) := by
  have counted := numbered_twin twin (one.events + 1)
  have countedToo : two.count = two.numbered (one.events + 1) := by
    rw [count_eq_numbered, events_eq_of_twin twin]
  have modeToo := (mode_eq_of_twin twin).symm
  cases mode : one.mode with
  | error e =>
      rw [mode] at modeToo
      simp only [hook, mode, modeToo, countedToo]
      exact ⟨rfl, rfl, counted, near⟩
  | ok m =>
      rw [mode] at modeToo
      cases m with
      | disabled =>
          simp only [hook, mode, modeToo, countedToo]
          exact ⟨rfl, rfl, counted, near⟩
      | profile =>
          simp only [hook, mode, modeToo]
          exact profile_matches congruent twin near event
      | inject =>
          have asked : (one.plan disk).2.withoutPlan = (two.plan other).2.withoutPlan := by
            rw [withoutPlan_plan, withoutPlan_plan, twin]
          rw [hook_of_inject mode, hook_of_inject modeToo, inject_eq_carryOut,
            inject_eq_carryOut, same mode, ← events_eq_of_twin twin]
          exact carryOut_matches congruent (numbered_twin asked _) near _

/-! ### Contexts that are given plans -/

/-- Contexts that are given plans that decide alike, each on its own disk, where they ask for one at
all. -/
def Meets (one : Context d) (disk : Disk) (two : Context d) (other : Disk) : Prop :=
  one.mode = .ok .inject → one.settings.outcomePath ≠ none →
    ∃ p q, (one.plan disk).1 = .ok p ∧ (two.plan other).1 = .ok q ∧ p.Alike q

theorem meets_of_cells {p q : Plan d} (held : one.cell.plan? = some p)
    (heldToo : two.cell.plan? = some q) (alike : p.Alike q)
    (twin : one.withoutPlan = two.withoutPlan) (disk other : Disk) :
    one.Meets disk two other := by
  intro mode named
  obtain ⟨path, there⟩ := Option.ne_none_iff_exists'.1 named
  have thereToo := (outcomePath_eq_of_twin twin).symm.trans there
  exact ⟨p, q, by rw [plan_of_cell held there], by rw [plan_of_cell heldToo thereToo], alike⟩

theorem Meets.verdict_eq (h : one.Meets disk two other)
    (twin : one.withoutPlan = two.withoutPlan) (mode : one.mode = .ok .inject)
    (event : Event d) : one.verdict disk event = two.verdict other event := by
  unfold verdict
  cases named : one.settings.outcomePath with
  | none =>
      have namedToo := (outcomePath_eq_of_twin twin).symm.trans named
      rw [plan_of_no_outcomePath named, plan_of_no_outcomePath namedToo]
  | some path =>
      obtain ⟨p, q, given, givenToo, alike⟩ := h mode (by rw [named]; nofun)
      rw [given, givenToo, ← events_eq_of_twin twin]
      exact alike _ event

theorem eq_of_twin (twin : one.withoutPlan = two.withoutPlan)
    (path : one.settings.planPath = two.settings.planPath) (cell : one.cell = two.cell) :
    one = two := by
  obtain ⟨⟨mode, log, plan, outcomes⟩, held, counter, injections⟩ := one
  obtain ⟨⟨modeToo, logToo, planToo, outcomesToo⟩, heldToo, counterToo, injectionsToo⟩ := two
  cases twin
  cases path
  cases cell
  rfl

/-! ### One context on two disks -/

variable {places : Disk.Place → Prop}

/-- The plan that a context is given depends on the file that it reads alone. -/
theorem plan_congr (mode : context.mode = .ok .inject)
    (same : ∀ path, context.settings.origin? = some path →
      disk.readText? path = other.readText? path) :
    context.plan disk = context.plan other := by
  cases outcomesAt : context.settings.outcomePath with
  | none => rw [plan_of_no_outcomePath outcomesAt, plan_of_no_outcomePath outcomesAt]
  | some outcomes =>
      cases held : context.cell.plan? with
      | some plan => rw [plan_of_cell held outcomesAt, plan_of_cell held outcomesAt]
      | none =>
          have loaded : context.settings.loadPlan d disk = context.settings.loadPlan d other := by
            cases planAt : context.settings.planPath with
            | none =>
                unfold Settings.loadPlan
                rw [Settings.requirePlanPath, planAt]
                rfl
            | some path =>
                have read := same path ((Settings.origin?_of_inject mode outcomesAt).trans planAt)
                rw [Settings.loadPlan_eq_load outcomesAt planAt,
                  Settings.loadPlan_eq_load outcomesAt planAt, Plan.load, Plan.load, read]
          rw [plan_of_empty held, plan_of_empty held, loaded]

/-- What comes of a report depends on the file that the context reads alone: on disks that agree
there, the answers are equal, and so are the contexts afterwards. -/
theorem hook_congr (near : disk.AgreeOn places other)
    (reads : ∀ place, context.settings.Reads disk place → places place) (event : Event d) :
    (context.hook disk (some event)).Matches (Disk.AgreeOn places)
        (context.hook other (some event)) ∧
      (context.hook disk (some event)).context = (context.hook other (some event)).context := by
  have planned (mode : context.mode = .ok .inject) : context.plan disk = context.plan other := by
    apply plan_congr mode
    intro path origin
    apply near.readText?_eq
    intro place there
    exact reads place ⟨path, origin, there⟩
  have replied := hook_matches (Disk.AgreeOn.congruence places) rfl near event fun mode => by
    unfold verdict
    rw [planned mode]
  refine ⟨replied, eq_of_twin replied.twin ?_ ?_⟩
  · rw [settings_hook, settings_hook]
  · obtain ⟨here, differs⟩ | ⟨here, mode⟩ := context.cell_hook disk event
    · obtain ⟨there, -⟩ | ⟨-, mode⟩ := context.cell_hook other event
      · rw [here, there]
      · exact absurd mode differs
    · obtain ⟨-, differs⟩ | ⟨there, -⟩ := context.cell_hook other event
      · exact absurd mode differs
      · rw [here, there, planned mode]

end Context

end FaultReplay
