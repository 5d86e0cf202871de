import FaultReplay.Proofs.Context.Atomicity
import FaultReplay.Proofs.Context.Loading
import FaultReplay.Proofs.Plan.Caching
import FaultReplay.Proofs.Run.Firing
import Mathlib.Data.List.Induction

/-!
# Runs that load their plan

An injecting context that starts without a plan tries to load it for every event. Until an attempt
succeeds its calls fail and leave everything as it was; from the one that does succeed on, every
call goes by the plan that was loaded then.
-/

namespace FaultReplay

variable {d : Domain}

/-! ### Calls that have no plan -/

/-- A call that fails for want of a plan: the error is one of configuration, and the event, the
count of applied faults and the files are as they were. -/
structure Reply.Unplanned (reply : Reply d) (context : Context d) (disk : Disk) (event : Event d)
    (e : Error) : Prop where
  result : reply.result = .error e
  kind : e.kind = .configuration
  untouched : reply.Untouched context disk (some event)
  cell : reply.context.cell = (context.plan disk).2.cell

theorem Context.unplanned_of_refused {context : Context d} {disk : Disk} {e : Error}
    (mode : context.mode = .ok .inject) (refused : (context.plan disk).1 = .error e)
    (event : Event d) :
    (context.hook disk (some event)).Unplanned context disk event e := by
  have answered : context.plan disk = (.error e, (context.plan disk).2) := Prod.ext refused rfl
  rw [hook_of_inject mode, inject_of_refused answered]
  have counted : (context.plan disk).2.injections = context.injections :=
    injections_of_plan answered
  exact {
    result := rfl
    kind := (context.plan_failsWith disk e refused).kind
    untouched := ⟨⟨rfl, counted⟩, rfl⟩
    cell := rfl }

namespace Session

variable {start : Session d} {before run : List (Turn d)} {event : Event d} {plan : Plan d}

/-! ### Attempts that fail -/

/-- Every call of the run makes an attempt to load the plan that fails. -/
def Fruitless (start : Session d) (run : List (Turn d)) : Prop :=
  ∀ before event, Turn.Calls run before event →
    ∃ e, start.context.settings.loadPlan d (start.after before).disk = .error e

theorem Fruitless.of_prefix (h : start.Fruitless run) (part : before <+: run) :
    start.Fruitless before :=
  fun earlier event sooner => h earlier event (sooner.trans part)

/-- Without a plan in its cell a context is given the one that it loads, and keeps it. -/
theorem plan_after_of_empty (empty : (start.after before).context.cell.plan? = none) :
    let attempt := start.context.settings.loadPlan d (start.after before).disk
    let asked := (start.after before).context.plan (start.after before).disk
    asked.1 = attempt ∧ asked.2.cell.plan? = attempt.toOption := by
  rw [Context.plan_of_empty empty, start.settings_after before]
  exact ⟨rfl, rfl⟩

/-- The cell stays empty as long as every attempt fails. -/
theorem plan?_after_of_fruitless (mode : start.context.settings.resolveMode = .ok .inject)
    (empty : start.context.cell.plan? = none) (fruitless : start.Fruitless run) :
    (start.after run).context.cell.plan? = none := by
  -- By the last turn: what happened before it was fruitless too.
  induction run using List.reverseRecOn with
  | nil => exact empty
  | append_singleton run last ih =>
      have still := ih (fruitless.of_prefix (List.prefix_append run [last]))
      rw [after_append, after_cons, after_nil]
      cases last with
      | outside change => exact still
      | report report =>
          cases report with
          | none => exact still
          | some event =>
              obtain ⟨e, refused⟩ := fruitless run event List.prefix_rfl
              obtain ⟨answer, kept⟩ := plan_after_of_empty still
              rw [refused] at answer kept
              have injects := (start.mode_after run).trans mode
              have unplanned := Context.unplanned_of_refused injects answer event
              exact (congrArg PlanCell.plan? unplanned.cell).trans kept

/-! ### The attempt that succeeds -/

/-- A call after some turns goes by a plan: it is given that plan, has it afterwards, and applies
exactly the fault that the plan has for the number of the call and its event, if that fits. -/
structure GoesBy (start : Session d) (before : List (Turn d)) (event : Event d) (plan : Plan d) :
    Prop where
  given : ((start.after before).context.plan (start.after before).disk).1 = .ok plan
  held : (start.after (before ++ [.report (some event)])).context.cell.plan? = some plan
  fires : ∀ fault, start.Fires before event fault ↔
    plan.find ((start.after before).context.events + 1) event.identity = some fault ∧
      fault.Fits event

theorem goesBy_of_given (mode : start.context.settings.resolveMode = .ok .inject)
    (given : ((start.after before).context.plan (start.after before).disk).1 = .ok plan)
    (event : Event d) : start.GoesBy before event plan where
  given := given
  held := by
    rw [after_append]
    exact Context.plan?_hook_of_inject ((start.mode_after before).trans mode) given event
  fires := by
    intro fault
    rw [fires_iff]
    constructor
    · rintro ⟨-, ⟨other, givenToo, found⟩, fits⟩
      obtain rfl := Except.ok.inj (given.symm.trans givenToo)
      exact ⟨found, fits⟩
    · rintro ⟨found, fits⟩
      exact ⟨mode, ⟨plan, given, found⟩, fits⟩

/-- Once a call went by a plan, every later call does. -/
theorem GoesBy.later (h : start.GoesBy before event plan)
    (mode : start.context.settings.resolveMode = .ok .inject) (more : List (Turn d))
    (next : Event d) :
    start.GoesBy (before ++ [.report (some event)] ++ more) next plan := by
  apply goesBy_of_given mode
  obtain ⟨path, there⟩ := Context.outcomePath_of_plan (Prod.ext h.given rfl)
  have held := plan?_after h.held more
  rw [← after_append] at held
  have outcomePath := start.outcomePath_after (before ++ [.report (some event)] ++ more)
  rw [← start.outcomePath_after before, there] at outcomePath
  rw [Context.plan_of_cell held outcomePath]

/-! ### Runs without a path for outcomes -/

theorem cell_turn_of_no_outcomePath (missing : start.context.settings.outcomePath = none)
    (next : Turn d) : (start.turn next).context.cell = start.context.cell := by
  cases next with
  | outside change => rfl
  | report report =>
      cases report with
      | none => rfl
      | some event =>
          obtain ⟨same, -⟩ | ⟨asked, -⟩ := start.context.cell_hook start.disk event
          · exact same
          · rw [Context.plan_of_no_outcomePath missing] at asked
            exact asked

/-- Without a path for outcomes nothing is ever loaded. -/
theorem cell_after_of_no_outcomePath (missing : start.context.settings.outcomePath = none)
    (run : List (Turn d)) : (start.after run).context.cell = start.context.cell := by
  induction run generalizing start with
  | nil => rfl
  | cons next run ih =>
      have still : (start.turn next).context.settings.outcomePath = none :=
        (start.outcomePath_after [next]).trans missing
      rw [after_cons, ih still, cell_turn_of_no_outcomePath missing]

theorem unplanned_of_no_outcomePath (mode : start.context.settings.resolveMode = .ok .inject)
    (missing : start.context.settings.outcomePath = none) (run : List (Turn d))
    (event : Event d) :
    ((start.after run).reply (some event)).Unplanned (start.after run).context
      (start.after run).disk event .noOutcomePath := by
  apply Context.unplanned_of_refused ((start.mode_after run).trans mode)
  rw [Context.plan_of_no_outcomePath ((start.outcomePath_after run).trans missing)]

end Session

/-- The first load of a plan that succeeds is the only one, and until then every request is answered
with what is in the file at that moment. -/
theorem Session.first_load_stays (d : Domain) :
    (∀ (disk : Disk) (uses : List PlanCell.Use),
      let store : PlanStore d := ⟨{}, disk⟩
      store.Fruitless uses →
        (store.after uses).cell.plan? = none ∧
        ∀ path, (store.after uses).answer path = Plan.load d (store.after uses).disk path ∧
          ∀ plan, Plan.load d (store.after uses).disk path = .ok plan →
            ∀ more, (store.after (uses ++ .fetch path :: more)).cell.Settled plan) ∧
    (∀ (plan : Plan d) (disk : Disk) (uses : List PlanCell.Use),
      (PlanStore.after ⟨⟨some plan⟩, disk⟩ uses).cell.Settled plan) ∧
    (∀ (settings : Settings) (disk : Disk) (run : List (Turn d)) (event : Event d),
      settings.resolveMode = .ok .inject →
      let start : Session d := ⟨.ofSettings settings, disk⟩
      let now := start.after run
      start.Fruitless run →
        now.context.cell.plan? = none ∧
        (∀ e, settings.loadPlan d now.disk = .error e →
          (now.reply (some event)).Unplanned now.context now.disk event e) ∧
        ∀ plan, settings.loadPlan d now.disk = .ok plan →
          start.GoesBy run event plan ∧
          ∀ more next, start.GoesBy (run ++ [.report (some event)] ++ more) next plan) ∧
    ∀ (settings : Settings) (cell : PlanCell d) (disk : Disk) (run : List (Turn d))
      (event : Event d), settings.resolveMode = .ok .inject → settings.outcomePath = none →
      let now := Session.after ⟨{ settings, cell }, disk⟩ run
      (now.reply (some event)).Unplanned now.context now.disk event .noOutcomePath ∧
        now.context.cell = cell := by
  refine ⟨?_, ?_, ?_, ?_⟩
  · intro disk uses store fruitless
    have empty := PlanStore.plan?_after_of_fruitless rfl fruitless
    refine ⟨empty, fun path => ⟨PlanCell.fetch_of_none empty _ path, ?_⟩⟩
    intro plan loaded more
    rw [PlanStore.after_append]
    exact PlanStore.settled_of_load empty loaded more
  · intro plan disk uses
    exact PlanStore.settled_after rfl uses
  · intro settings disk run event mode start now fruitless
    have empty : now.context.cell.plan? = none := plan?_after_of_fruitless mode rfl fruitless
    obtain ⟨answer, -⟩ := plan_after_of_empty empty
    refine ⟨empty, ?_, ?_⟩
    · intro e refused
      exact Context.unplanned_of_refused ((start.mode_after run).trans mode)
        (answer.trans refused) event
    · intro plan loaded
      have goes : start.GoesBy run event plan := goesBy_of_given mode (answer.trans loaded) event
      exact ⟨goes, goes.later mode⟩
  · intro settings cell disk run event mode missing
    exact ⟨unplanned_of_no_outcomePath mode missing run event,
      cell_after_of_no_outcomePath missing run⟩

/-- The plan file appears after the first call and is rewritten after the second one: the cell and
the context keep what they read first. -/
theorem Session.first_load_stays_rewritten_file :
    ∃ (start : Session .instruction) (add : Event .instruction) (appears changes : Disk → Disk)
      (early late : Plan .instruction),
      (start.reply (some add)).result = .error (.planUnreadable "plan.txt") ∧
      Plan.load .instruction (appears start.disk) "plan.txt" = .ok early ∧
      Plan.load .instruction (changes (appears start.disk)) "plan.txt" = .ok late ∧
      early ≠ late ∧
      (PlanStore.after ⟨{}, start.disk⟩
        [.outside appears, .fetch "plan.txt", .outside changes]).cell.Settled early ∧
      start.GoesBy [.report (some add), .outside appears] add early ∧
      start.GoesBy
        [.report (some add), .outside appears, .report (some add), .outside changes] add early := by
  let add : Event .instruction := Instruction.Retirement.mk "ADD" 4 0 [3]
  let settings : Settings :=
    { mode := some "inject", planPath := some "plan.txt", outcomePath := some "outcome.txt" }
  let written (text : String) (disk : Disk) : Disk :=
    disk.put ⟨false, ["plan.txt"]⟩ (.file text.toUTF8)
  let appears : Disk → Disk := written "1 2 16 3 0 ADD\n"
  let changes : Disk → Disk := written "1 3 32 3 0 ADD\n"
  let early : Plan .instruction :=
    ⟨[{ trigger := 2, identity := ⟨0, "ADD"⟩, mask := 16, expected := 3 }], by decide, by decide,
      by decide⟩
  let late : Plan .instruction :=
    ⟨[{ trigger := 3, identity := ⟨0, "ADD"⟩, mask := 32, expected := 3 }], by decide, by decide,
      by decide⟩
  let start : Session .instruction := ⟨.ofSettings settings, .empty⟩
  obtain ⟨cells, -, contexts, -⟩ := first_load_stays .instruction
  have barren : PlanStore.Fruitless ⟨({} : PlanCell .instruction), .empty⟩ [.outside appears] := by
    rintro (_ | ⟨first, before⟩) path ⟨rest, split⟩ <;> simp at split
  have fruitless : start.Fruitless [.report (some add), .outside appears] := by
    rintro (_ | ⟨first, _ | ⟨second, before⟩⟩) event ⟨rest, split⟩
    · exact ⟨.planUnreadable "plan.txt", by decide +kernel⟩
    · simp at split
    · simp at split
  have settled := ((cells .empty [.outside appears] barren).2 "plan.txt").2 early
    (by decide +kernel) [.outside changes]
  obtain ⟨here, later⟩ := (contexts settings .empty [.report (some add), .outside appears] add
    (by decide +kernel) fruitless).2.2 early (by decide +kernel)
  exact ⟨start, add, appears, changes, early, late, by decide +kernel, by decide +kernel,
    by decide +kernel, by decide +kernel, settled, here, later [.outside changes] add⟩

end FaultReplay
