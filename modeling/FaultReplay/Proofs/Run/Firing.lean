import FaultReplay.Proofs.Run.Numbering
import Mathlib.Control.Monad.Basic
import Mathlib.Data.List.Infix
import Mathlib.Data.List.Perm.Subperm

/-!
# Faults fire once

Nothing marks a fault of a plan as used. A call applies only a fault whose trigger is its own
number, numbers grow from call to call, and a plan that was loaded stays. So a fault is applied in
one call at most and never after its number has passed, and no more faults are applied than the plan
has.
-/

namespace FaultReplay

variable {d : Domain}

/-! ### Calls of a run -/

namespace Turn

/-- A call of a run, told by the turns before it and its event. -/
def Calls (run before : List (Turn d)) (event : Event d) : Prop :=
  before ++ [.report (some event)] <+: run

variable {run before other : List (Turn d)} {event next : Event d}

theorem length_events_le (h : before <+: run) : (events before).length ≤ (events run).length :=
  (h.filterMap event?).length_le

theorem Calls.length_lt (h : Calls run before event) :
    (events before).length < (events run).length := by
  have fewer := length_events_le h
  rw [events_append, List.length_append] at fewer
  exact fewer

/-- No two calls of a run come after equally many events. -/
theorem Calls.unique (h : Calls run before event) (ho : Calls run other next)
    (same : (events before).length = (events other).length) : before = other := by
  -- Both are beginnings of the run, so one begins the other; a proper beginning has fewer events.
  rcases List.prefix_or_prefix_of_prefix h ho with sooner | later
  · rcases List.prefix_concat_iff.1 sooner with equal | inside
    · exact (List.append_inj' equal rfl).1
    · exact absurd (Calls.length_lt inside) (by omega)
  · rcases List.prefix_concat_iff.1 later with equal | inside
    · exact (List.append_inj' equal rfl).1.symm
    · exact absurd (Calls.length_lt inside) (by omega)

end Turn

namespace Session

variable {session : Session d} {spent : List (Fault d)} {fault : Fault d}

/-- A call after some turns applies a fault. -/
def Fires (start : Session d) (before : List (Turn d)) (event : Event d) (fault : Fault d) : Prop :=
  ((start.after before).reply (some event)).Strikes (start.after before).context
    (start.after before).disk event fault

/-- The faults that a session has applied: they are counted, they are different, they are in the
plan of the cell, and none of them has a number that is still to come. -/
structure Spent (session : Session d) (spent : List (Fault d)) : Prop where
  count : session.context.injections.toNat = spent.length
  distinct : spent.Nodup
  held : ∀ fault ∈ spent, ∃ plan, session.context.cell.plan? = some plan ∧ fault ∈ plan.faults
  past : ∀ fault ∈ spent, fault.trigger.toNat ≤ session.context.events.toNat

theorem Spent.eq_nil (h : session.Spent spent) (empty : session.context.cell.plan? = none) :
    spent = [] := by
  apply List.eq_nil_iff_forall_not_mem.2
  intro fault mem
  obtain ⟨plan, held, -⟩ := h.held fault mem
  cases empty.symm.trans held

theorem Spent.length_le (h : session.Spent spent) {plan : Plan d}
    (held : session.context.cell.plan? = some plan) : spent.length ≤ plan.faults.length := by
  refine (List.subperm_of_subset h.distinct ?_).length_le
  intro fault mem
  obtain ⟨same, there, inside⟩ := h.held fault mem
  obtain rfl := Option.some.inj (held.symm.trans there)
  exact inside

/-- No more faults are applied than a plan can have. -/
theorem Spent.few (h : session.Spent spent) : spent.length ≤ Plan.capacity := by
  cases held : session.context.cell.plan? with
  | none => simp [h.eq_nil held]
  | some plan => exact (h.length_le held).trans plan.length_le

/-! ### One turn and a whole run -/

theorem toNat_events_reply (room : session.context.events.toNat + 1 < UInt64.size)
    (event : Event d) :
    (session.reply (some event)).context.events.toNat = session.context.events.toNat + 1 := by
  rw [events_reply_some, Counter.toNat_succ room]

/-- A call that spares its event leaves the applied faults as they are. -/
theorem Spent.spare {event : Event d} (h : session.Spent spent)
    (room : session.context.events.toNat + 1 < UInt64.size)
    (spared : (session.reply (some event)).Spares session.context (some event)) :
    (session.turn (.report (some event))).Spent spent where
  count := by
    rw [← h.count]
    exact congrArg UInt64.toNat spared.injections
  distinct := h.distinct
  held := by
    intro fault mem
    obtain ⟨plan, held, inside⟩ := h.held fault mem
    exact ⟨plan, plan?_turn held _, inside⟩
  past := by
    intro fault mem
    have before := h.past fault mem
    have next := toNat_events_reply room event
    simp only [turn]
    omega

/-- A call that applies a fault adds it to those that were applied before. -/
theorem Spent.strike {event : Event d} (h : session.Spent spent)
    (room : session.context.events.toNat + 1 < UInt64.size)
    (struck : (session.reply (some event)).Strikes session.context session.disk event fault) :
    (session.turn (.report (some event))).Spent (fault :: spent) := by
  have next := toNat_events_reply room event
  have number : fault.trigger.toNat = session.context.events.toNat + 1 := by
    rw [struck.aims.trigger, Counter.toNat_succ room]
  obtain ⟨plan, held, inside⟩ := Context.exists_plan?_of_strikes struck
  have kept : ∀ other ∈ spent, other ∈ plan.faults := by
    intro other mem
    obtain ⟨same, before, listed⟩ := h.held other mem
    obtain rfl := Option.some.inj ((Context.plan?_hook before _ _).symm.trans held)
    exact listed
  refine ⟨?_, ?_, ?_, ?_⟩
  · have few : session.context.injections.toNat + 1 < UInt64.size := by
      rw [h.count]
      exact Nat.lt_of_le_of_lt (Nat.succ_le_succ h.few) (by decide)
    simp only [turn, struck.injections, Counter.toNat_succ few, h.count, List.length_cons]
  · -- A fault that was applied before has a number that has passed; this one has the next number.
    refine List.nodup_cons.2 ⟨fun mem => ?_, h.distinct⟩
    have before := h.past fault mem
    omega
  · intro other mem
    rcases List.mem_cons.1 mem with rfl | mem
    · exact ⟨plan, held, inside⟩
    · exact ⟨plan, held, kept other mem⟩
  · intro other mem
    simp only [turn, next]
    rcases List.mem_cons.1 mem with rfl | mem
    · omega
    · have before := h.past other mem
      omega

theorem Spent.exists_after (h : session.Spent spent) {run : List (Turn d)}
    (room : session.context.events.toNat + (Turn.events run).length < UInt64.size) :
    ∃ more, (session.after run).Spent more := by
  induction run generalizing session spent with
  | nil => exact ⟨spent, h⟩
  | cons next run ih =>
      rw [after_cons]
      cases next with
      | outside change =>
          have same : (session.turn (.outside change)).Spent spent :=
            ⟨h.count, h.distinct, h.held, h.past⟩
          exact ih same room
      | report event? =>
          cases event? with
          | none => exact ih h room
          | some event =>
              rw [Turn.events_report_some, List.length_cons] at room
              have one : session.context.events.toNat + 1 < UInt64.size := by omega
              have rest : (session.turn (.report (some event))).context.events.toNat +
                  (Turn.events run).length < UInt64.size := by
                have next := toNat_events_reply one event
                simp only [turn, next]
                omega
              obtain ⟨spared, -⟩ | ⟨fault, path, struck, -⟩ :=
                session.context.hook_some session.disk event
              · exact ih (h.spare one spared) rest
              · exact ih (h.strike one struck) rest

/-! ### Calls that apply a fault -/

variable {start : Session d} {run before : List (Turn d)} {event : Event d}

theorem fires_iff :
    start.Fires before event fault ↔
      start.context.settings.resolveMode = .ok .inject ∧
        (start.after before).context.Aims (start.after before).disk event fault ∧
        fault.Fits event := by
  rw [← start.settings_after before]
  exact Context.strikes_iff

theorem Fires.unique {other : Fault d} (h : start.Fires before event fault)
    (ho : start.Fires before event other) : other = fault :=
  h.aims.unique ho.aims

/-- A fault is applied only by the call that has its trigger for number. -/
theorem Fires.number (h : start.Fires before event fault) (fresh : start.context.events = 0)
    (call : Turn.Calls run before event) (short : (Turn.events run).length < UInt64.size) :
    fault.trigger.toNat = (Turn.events before).length + 1 := by
  have fewer := call.length_lt
  have room : (Turn.events before).length + 1 < UInt64.size := by omega
  have counted := toNat_events_after fresh (Nat.lt_of_succ_lt room)
  rw [h.aims.trigger, Counter.toNat_succ (by rwa [counted]), counted]

/-- A fault that was applied is in the plan that the run ends with. -/
theorem Fires.planned (h : start.Fires before event fault) (call : Turn.Calls run before event) :
    ∃ plan, (start.after run).context.cell.plan? = some plan ∧ fault ∈ plan.faults := by
  obtain ⟨plan, held, inside⟩ := Context.exists_plan?_of_strikes h
  obtain ⟨later, rfl⟩ := call
  refine ⟨plan, ?_, inside⟩
  rw [after_append, after_append]
  exact plan?_after held later

end Session

/-- In a run of fewer calls than there are numbers a fault is applied at most once, in the call with
its number, and never more faults than the plan has. -/
theorem Session.fault_fires_once (settings : Settings) (cell : PlanCell d) (disk : Disk)
    (run : List (Turn d)) (short : (Turn.events run).length < UInt64.size) :
    let start : Session d := ⟨{ settings, cell }, disk⟩
    (∀ before event, Turn.Calls run before event →
      ((start.after before).reply (some event)).Spares (start.after before).context (some event) ∨
      ∃ fault, start.Fires before event fault ∧
        (∀ other, start.Fires before event other → other = fault) ∧
        fault.trigger.toNat = (Turn.events before).length + 1 ∧
        ∃ plan, (start.after run).context.cell.plan? = some plan ∧ fault ∈ plan.faults) ∧
    (∀ before event fault, start.Fires before event fault ↔
      settings.resolveMode = .ok .inject ∧
        (start.after before).context.Aims (start.after before).disk event fault ∧
        fault.Fits event) ∧
    (∀ fault before event other next, Turn.Calls run before event → Turn.Calls run other next →
      start.Fires before event fault → start.Fires other next fault → before = other) ∧
    (∀ fault before event, Turn.Calls run before event →
      fault.trigger.toNat ≤ (Turn.events before).length → ¬ start.Fires before event fault) ∧
    ∀ before, before <+: run →
      ((start.after before).context.cell.plan? = none →
        (start.after before).context.injections = 0) ∧
      ∀ plan, (start.after before).context.cell.plan? = some plan →
        (start.after before).context.injections.toNat ≤ plan.faults.length ∧
        plan.faults.length ≤ 3 := by
  intro start
  have fresh : start.context.events = 0 := rfl
  have unspent : start.Spent [] := ⟨rfl, List.nodup_nil, by simp, by simp⟩
  refine ⟨?_, fun before event fault => fires_iff, ?_, ?_, ?_⟩
  · intro before event call
    obtain ⟨spared, -⟩ | ⟨fault, path, struck, -⟩ :=
      (start.after before).context.hook_some (start.after before).disk event
    · exact Or.inl spared
    · have fires : start.Fires before event fault := struck
      exact Or.inr ⟨fault, fires, fun other also => fires.unique also,
        fires.number fresh call short, fires.planned call⟩
  · intro fault before event other next call callToo fires firesToo
    have here := fires.number fresh call short
    have there := firesToo.number fresh callToo short
    exact call.unique callToo (by omega)
  · intro fault before event call passed fires
    have number := fires.number fresh call short
    omega
  · intro before part
    have fewer := Turn.length_events_le part
    have room : start.context.events.toNat + (Turn.events before).length < UInt64.size := by
      rw [fresh, UInt64.toNat_zero]
      omega
    obtain ⟨spent, counted⟩ := unspent.exists_after room
    constructor
    · intro empty
      apply UInt64.toNat_inj.1
      rw [counted.count, counted.eq_nil empty]
      rfl
    · intro plan held
      rw [counted.count]
      exact ⟨counted.length_le held, plan.length_le⟩

/-- A plan appears after the first call: its fault for that call is never applied, its fault for the
second one is. -/
theorem Session.fault_fires_once_late_plan :
    ∃ (start : Session .instruction) (add : Event .instruction) (appears : Disk → Disk)
      (early late : Fault .instruction),
      early.trigger = 1 ∧ late.trigger = 2 ∧
      (start.reply (some add)).result = .error (.planUnreadable "plan.txt") ∧
      ¬ start.Fires [] add early ∧
      ¬ start.Fires [.report (some add), .outside appears] add early ∧
      start.Fires [.report (some add), .outside appears] add late ∧
      (start.after [.report (some add), .outside appears, .report (some add)]).context.injections
        = 1 := by
  let add : Event .instruction := Instruction.Retirement.mk "ADD" 4 0 [3]
  let settings : Settings :=
    { mode := some "inject", planPath := some "plan.txt", outcomePath := some "outcome.txt" }
  let early : Fault .instruction :=
    { trigger := 1, identity := ⟨0, "ADD"⟩, mask := 16, expected := 3 }
  let late : Fault .instruction := { early with trigger := 2 }
  let plan : Plan .instruction := ⟨[early, late], by decide, by decide, by decide⟩
  let appears (disk : Disk) : Disk :=
    disk.put ⟨false, ["plan.txt"]⟩ (.file "2\n1 16 3 0 ADD\n2 16 3 0 ADD\n".toUTF8)
  let run : List (Turn .instruction) :=
    [.report (some add), .outside appears, .report (some add)]
  obtain ⟨-, fires, -, passed, -⟩ := fault_fires_once settings {} .empty run (by decide)
  refine ⟨⟨.ofSettings settings, .empty⟩, add, appears, early, late, rfl, rfl,
    by decide +kernel, ?_, ?_, ?_, by decide +kernel⟩
  · intro struck
    exact absurd struck.injections (by decide +kernel)
  · exact passed early _ add (List.prefix_refl run) (by decide)
  · exact (fires _ add late).2
      ⟨by decide +kernel, ⟨plan, by decide +kernel, by decide +kernel⟩, rfl⟩

end FaultReplay
