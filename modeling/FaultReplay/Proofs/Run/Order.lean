import FaultReplay.Proofs.Context.Twins
import FaultReplay.Proofs.Run.Basic

/-!
# The order of the faults does not show

A context keeps the plan that it holds. If it is given one with the same faults in another order, it
goes through every run as it would have: whatever is reported and whatever else happens to the disk,
each reply is the same but for the plan in the context.
-/

namespace FaultReplay

variable {d : Domain} {p q : Plan d}

/-- The context with a plan in its cell in place of what was there. -/
def Context.holding (context : Context d) (plan : Plan d) : Context d :=
  { context with cell := ⟨some plan⟩ }

/-- The reply with a plan in its context's cell. -/
def Reply.holding (reply : Reply d) (plan : Plan d) : Reply d :=
  { reply with context := reply.context.holding plan }

/-- The session with a plan in its context's cell. -/
def Session.holding (session : Session d) (plan : Plan d) : Session d :=
  { session with context := session.context.holding plan }

/-! ### One report -/

/-- A report is answered alike with both plans, and each stays where it is. -/
theorem Context.hook_holding {context : Context d} (held : context.cell.plan? = some p)
    (order : p.faults.Perm q.faults) (disk : Disk) (report : Option (Event d)) :
    (context.holding q).hook disk report = (context.hook disk report).holding q := by
  cases report with
  | none => rfl
  | some event =>
      have heldToo : (context.holding q).cell.plan? = some q := rfl
      have twin : (context.holding q).withoutPlan = context.withoutPlan := rfl
      have meets := meets_of_cells heldToo held (Plan.alike_of_perm order.symm) twin disk disk
      have replied := hook_matches Disk.congruence_eq twin rfl event
        fun mode => meets.verdict_eq twin mode event
      have settings : ((context.holding q).hook disk (some event)).context.settings =
          (context.hook disk (some event)).context.settings := by
        rw [settings_hook, settings_hook]
        rfl
      have kept : ((context.holding q).hook disk (some event)).context =
          (context.hook disk (some event)).context.holding q :=
        eq_of_twin replied.twin (congrArg Settings.planPath settings)
          (congrArg PlanCell.mk (plan?_hook heldToo disk event))
      unfold Reply.holding
      rw [← kept, ← replied.result, ← replied.event, ← replied.disk]

/-! ### Runs -/

namespace Session

variable {session : Session d}

theorem reply_holding (held : session.context.cell.plan? = some p)
    (order : p.faults.Perm q.faults) (report : Option (Event d)) :
    (session.holding q).reply report = (session.reply report).holding q :=
  Context.hook_holding held order session.disk report

theorem turn_holding (held : session.context.cell.plan? = some p)
    (order : p.faults.Perm q.faults) (next : Turn d) :
    (session.holding q).turn next = (session.turn next).holding q := by
  cases next with
  | outside change => rfl
  | report report =>
      simp only [turn, reply_holding held order]
      rfl

theorem after_holding (held : session.context.cell.plan? = some p)
    (order : p.faults.Perm q.faults) (run : List (Turn d)) :
    (session.holding q).after run = (session.after run).holding q := by
  induction run generalizing session with
  | nil => rfl
  | cons next run ih =>
      rw [after_cons, after_cons, turn_holding held order, ih (plan?_turn held next)]

theorem replies_holding (held : session.context.cell.plan? = some p)
    (order : p.faults.Perm q.faults) (run : List (Turn d)) :
    (session.holding q).replies run =
      (session.replies run).map fun reply => reply.holding q := by
  induction run generalizing session with
  | nil => rfl
  | cons next run ih =>
      have rest := ih (plan?_turn held next)
      cases next with
      | outside change => exact rest
      | report report =>
          rw [replies_report, replies_report, List.map_cons, reply_holding held order,
            turn_holding held order, rest]

end Session

/-- In whatever order a list of faults is given, it makes a plan or does not, and the plan does the
same in every run. -/
theorem Session.order_irrelevant {faults other : List (Fault d)} (order : faults.Perm other) :
    ((∃ p, Plan.ofFaults faults = .ok p) ↔ ∃ q, Plan.ofFaults other = .ok q) ∧
    ∀ p q, Plan.ofFaults faults = .ok p → Plan.ofFaults other = .ok q →
      (∀ (sequence : UInt64) (test : Identity d → Bool),
        (∀ one two, test one = true → test two = true → one = two) →
          p.findBy sequence test = q.findBy sequence test) ∧
      (∀ (sequence : UInt64) (event : Event d),
        p.find sequence event.identity = q.find sequence event.identity ∧
        (p.findBy sequence fun identity => Event.hasIdentity event identity) =
          p.find sequence event.identity ∧
        (q.findBy sequence fun identity => Event.hasIdentity event identity) =
          q.find sequence event.identity) ∧
      ∀ (settings : Settings) (disk : Disk) (run : List (Turn d)),
        let one : Session d := ⟨.withPlan settings p, disk⟩
        let two : Session d := ⟨.withPlan settings q, disk⟩
        (one.replies run).map Reply.seen = (two.replies run).map Reply.seen ∧
        (one.after run).context.events = (two.after run).context.events ∧
        (one.after run).context.injections = (two.after run).context.injections ∧
        (one.after run).disk = (two.after run).disk := by
  refine ⟨Plan.exists_ofFaults_iff_of_perm order, fun p q made madeToo => ?_⟩
  have listed : p.faults.Perm q.faults := by
    rw [Plan.faults_of_ofFaults made, Plan.faults_of_ofFaults madeToo]
    exact order
  refine ⟨fun sequence test => Plan.findBy_eq_of_perm listed sequence, ?_, ?_⟩
  · intro sequence event
    exact ⟨Plan.find_eq_of_perm listed sequence event.identity,
      p.findBy_hasIdentity sequence event, q.findBy_hasIdentity sequence event⟩
  · intro settings disk run one two
    have held : one.context.cell.plan? = some p := rfl
    have replaced : two = one.holding q := rfl
    have seen : (two.replies run).map Reply.seen = (one.replies run).map Reply.seen := by
      rw [replaced, replies_holding held listed, List.map_map]
      rfl
    have after : two.after run = (one.after run).holding q := after_holding held listed run
    rw [seen, after]
    exact ⟨rfl, rfl, rfl, rfl⟩

/-- Of two faults in either order, the second event gets the one that is its own. -/
theorem Session.order_irrelevant_swapped :
    ∃ (p q : Plan .instruction) (settings : Settings) (add sub : Event .instruction),
      p.faults.Perm q.faults ∧ p ≠ q ∧
      (Session.replies ⟨.withPlan settings p, .empty⟩ (Turn.reports [add, sub])).map Reply.seen =
        (Session.replies ⟨.withPlan settings q, .empty⟩ (Turn.reports [add, sub])).map
          Reply.seen ∧
      (Session.after ⟨.withPlan settings q, .empty⟩ (Turn.reports [add, sub])).context.injections
        = 2 := by
  let add : Event .instruction := Instruction.Retirement.mk "ADD" 4 0 [3]
  let sub : Event .instruction := Instruction.Retirement.mk "SUB" 4 0 [5]
  let first : Fault .instruction :=
    { trigger := 1, identity := ⟨0, "ADD"⟩, mask := 16, expected := 3 }
  let second : Fault .instruction :=
    { trigger := 2, identity := ⟨0, "SUB"⟩, mask := 1, expected := 5 }
  let p : Plan .instruction := ⟨[first, second], by decide, by decide, by decide⟩
  let q : Plan .instruction := ⟨[second, first], by decide, by decide, by decide⟩
  let settings : Settings := { mode := some "inject", outcomePath := some "outcome.txt" }
  have order : p.faults.Perm q.faults := List.Perm.swap second first []
  obtain ⟨-, alike⟩ := order_irrelevant order
  obtain ⟨-, -, runs⟩ := alike p q (Plan.ofFaults_faults p) (Plan.ofFaults_faults q)
  obtain ⟨seen, -⟩ := runs settings .empty (Turn.reports [add, sub])
  exact ⟨p, q, settings, add, sub, order, by decide +kernel, seen, by decide +kernel⟩

end FaultReplay
