import FaultReplay.Proofs.Run.Pairing

/-!
# Plans that are given and plans that are read

A context that is given its plan and one that reads the text of that plan go through every run
alike, if the text is in the file when the first event is reported. A plan that was read has a
distance for every memory fault, so the two contexts need not hold the same plan; they hold plans
that decide alike.
-/

namespace FaultReplay

variable {d : Domain}

/-- Before its first event a run does nothing to a session but change the disk from outside. -/
theorem Turn.exists_change_of_events_eq_nil {before : List (Turn d)}
    (silent : Turn.events before = []) :
    ∃ change : Disk → Disk, ∀ start : Session d,
      start.after before = ⟨start.context, change start.disk⟩ := by
  induction before with
  | nil => exact ⟨id, fun start => rfl⟩
  | cons next before ih =>
      cases next with
      | outside first =>
          obtain ⟨change, later⟩ := ih silent
          exact ⟨change ∘ first, fun start => later (start.turn (.outside first))⟩
      | report event? =>
          cases event? with
          | none => exact ih silent
          | some event => cases silent

namespace Session

/-- When the first event of a run is reported, the file of a path has this text. -/
def FirstFinds (start : Session d) (run : List (Turn d)) (path text : String) : Prop :=
  ∀ before event, Turn.Calls run before event → Turn.events before = [] →
    (start.after before).disk.readText? path = some text

/-- A plan and its text are given to the first event alike. -/
theorem meets_of_printed {settings : Settings} {plan : Plan d} {planPath : String} {disk : Disk}
    (printable : ∀ fault ∈ plan.faults, fault.Printable)
    (planAt : settings.planPath = some planPath)
    (found : settings.resolveMode = .ok .inject →
      disk.readText? planPath = some plan.render) :
    (Context.withPlan settings plan).Meets disk (.ofSettings settings) disk := by
  intro mode named
  obtain ⟨outcomes, there⟩ := Option.ne_none_iff_exists'.1 named
  have outcomesAt : settings.outcomePath = some outcomes := there
  refine ⟨plan, plan.settled, ?_, ?_, plan.alike_settled⟩
  · rw [Context.plan_of_cell rfl there]
  · rw [Context.plan_ofSettings outcomesAt planAt, Plan.load, found mode]
    exact Plan.parse_render printable

end Session

/-- A context that is given a plan and one that reads the plan's text from its file go through every
run alike, if the text is there at the first event and the labels of instructions are words. -/
theorem Session.preloaded_agrees (settings : Settings) (plan : Plan d)
    (printable : ∀ fault ∈ plan.faults, fault.Printable) (planPath : String)
    (planAt : settings.planPath = some planPath) (disk : Disk) (run : List (Turn d))
    (found : settings.resolveMode = .ok .inject →
      Session.FirstFinds (⟨.ofSettings settings, disk⟩ : Session d) run planPath plan.render) :
    let given : Session d := ⟨.withPlan settings plan, disk⟩
    let reading : Session d := ⟨.ofSettings settings, disk⟩
    (given.replies run).map Reply.seen = (reading.replies run).map Reply.seen ∧
    (given.after run).context.events = (reading.after run).context.events ∧
    (given.after run).context.injections = (reading.after run).context.injections ∧
    (given.after run).disk = (reading.after run).disk := by
  intro given reading
  have alike : given.GoAlike Eq reading run := by
    have twin : given.context.withoutPlan = reading.context.withoutPlan := rfl
    have near : given.disk = reading.disk := rfl
    apply goAlike_of_meets Disk.congruence_eq near twin fun next _ => next.relates_eq
    intro before event call silent
    obtain ⟨change, changed⟩ := Turn.exists_change_of_events_eq_nil silent
    rw [changed given, changed reading]
    apply meets_of_printed printable planAt
    intro mode
    have there := found mode before event call silent
    rwa [changed] at there
  exact ⟨alike.seen, alike.events_eq, alike.injections_eq, alike.near⟩

/-- A fault without a distance is read from its file with the distance 0. Both contexts flip the
same bit with it, and go on alike when the file is gone. -/
theorem Session.preloaded_agrees_no_distance :
    ∃ (settings : Settings) (plan : Plan .memory) (disk : Disk) (access : Event .memory)
      (removes : Disk → Disk),
      let run : List (Turn .memory) :=
        [.report (some access), .outside removes, .report (some access)]
      let given : Session .memory := ⟨.withPlan settings plan, disk⟩
      let reading : Session .memory := ⟨.ofSettings settings, disk⟩
      reading.FirstFinds run "plan.txt" plan.render ∧ plan.settled ≠ plan ∧
      (given.replies run).map Reply.seen = (reading.replies run).map Reply.seen ∧
      (reading.after run).context.injections = 1 ∧
      (reading.after run).disk.read? "plan.txt" = none := by
  let access : Event .memory := Memory.Access.mk #[0, 170, 0, 0] ⟨1, 1, 4⟩
  let fault : Fault .memory :=
    { trigger := 1, identity := ⟨1, 1, 4⟩, mask := 128, expected := 170 }
  let plan : Plan .memory := ⟨[fault], by decide, by decide, by decide⟩
  let settings : Settings :=
    { mode := some "inject", planPath := some "plan.txt", outcomePath := some "outcome.txt" }
  let disk : Disk := Disk.empty.put ⟨false, ["plan.txt"]⟩ (.file plan.render.toUTF8)
  let removes (disk : Disk) : Disk := disk.delete "plan.txt"
  let run : List (Turn .memory) :=
    [.report (some access), .outside removes, .report (some access)]
  have first : Session.FirstFinds (⟨.ofSettings settings, disk⟩ : Session .memory) run "plan.txt"
      plan.render := by
    intro before event call silent
    cases before with
    | nil => decide +kernel
    | cons next before =>
        -- The first turn of this run has an event already.
        obtain ⟨rest, split⟩ := call
        have head : next = .report (some access) := (List.cons.inj split).1
        subst head
        cases silent
  obtain ⟨seen, -⟩ := preloaded_agrees settings plan (fun _ _ => trivial) "plan.txt" rfl disk run
    fun _ => first
  exact ⟨settings, plan, disk, access, removes, first, by decide, seen, by decide +kernel,
    by decide +kernel⟩

end FaultReplay
