import FaultReplay.Proofs.Run.Replaying

/-!
# Past reports have no part in later ones

A context that injects a plan carries a count of events, a count of faults and the plan. What it
does with the next event depends on the count of events alone: two runs with equally many events,
whatever those were and whatever became of them, go on alike.
-/

namespace FaultReplay

variable {d : Domain}

namespace Session

variable {settings : Settings} {plan : Plan d} {outcomes : String} {disk : Disk}

/-- A session that is given its plan replays it after any run, faults and errors included. -/
theorem replaying_withPlan (mode : settings.resolveMode = .ok .inject)
    (outcomesAt : settings.outcomePath = some outcomes) (writable : disk.CanWrite outcomes)
    {run : List (Turn d)} (keeps : ∀ next ∈ run, next.KeepsOpen outcomes) :
    (Session.after ⟨.withPlan settings plan, disk⟩ run).Replaying plan outcomes
      (Turn.events run).length := by
  let start : Session d := ⟨.withPlan settings plan, disk⟩
  have injects : (start.after run).context.mode = .ok .inject :=
    (start.mode_after run).trans mode
  have outcomesThere : (start.after run).context.settings.outcomePath = some outcomes :=
    (start.outcomePath_after run).trans outcomesAt
  have filled : start.context.cell.plan? = some plan := rfl
  have held := plan?_after filled run
  have writableFirst : start.disk.CanWrite outcomes := writable
  refine replaying_of_held injects outcomesThere held (canWrite_after writableFirst keeps) ?_
  rw [events_after]
  exact UInt64.zero_add _

end Session

/-- After any two runs with equally many events, contexts with the same plan and settings do with
the next event what the plan decides for its number. -/
theorem Session.history_independent (settings : Settings) (plan : Plan d)
    (mode : settings.resolveMode = .ok .inject) (outcomes : String)
    (outcomesAt : settings.outcomePath = some outcomes) (disk other : Disk)
    (writable : disk.CanWrite outcomes) (writableToo : other.CanWrite outcomes)
    (run history : List (Turn d)) (keeps : ∀ next ∈ run, next.KeepsOpen outcomes)
    (keepsToo : ∀ next ∈ history, next.KeepsOpen outcomes)
    (same : (Turn.events run).length = (Turn.events history).length) (event : Event d) :
    let one := Session.after ⟨.withPlan settings plan, disk⟩ run
    let two := Session.after ⟨.withPlan settings plan, other⟩ history
    let verdict := plan.verdict (UInt64.ofNat ((Turn.events run).length + 1)) event
    (one.reply (some event)).seen = (two.reply (some event)).seen ∧
    (one.reply (some event)).Follows verdict one.context one.disk outcomes ∧
    (two.reply (some event)).Follows verdict two.context two.disk outcomes := by
  intro one two verdict
  have first : one.Replaying plan outcomes (Turn.events run).length :=
    replaying_withPlan mode outcomesAt writable keeps
  have second : two.Replaying plan outcomes (Turn.events run).length := by
    rw [same]
    exact replaying_withPlan mode outcomesAt writableToo keepsToo
  have here := first.reply event
  have there := second.reply event
  refine ⟨?_, here, there⟩
  calc
    (one.reply (some event)).seen = (verdict.result, some verdict.event) :=
      Prod.ext here.result here.event
    _ = (two.reply (some event)).seen := (Prod.ext there.result there.event).symm

/-- An instruction that was refused and one that was struck are followed by the same addition: it is
struck alike after both. -/
theorem Session.history_independent_refused_struck :
    ∃ (start : Session .instruction) (mul sub add struck : Event .instruction),
      struck = Instruction.Retirement.mk "ADD" 4 0 [19] ∧
      (start.reply (some mul)).result = .error (.registerDiffers 1 5 3) ∧
      (start.reply (some sub)).context.injections = 1 ∧
      ((start.after [.report (some mul)]).reply (some add)).seen = (.ok (), some struck) ∧
      ((start.after [.report (some sub)]).reply (some add)).seen = (.ok (), some struck) := by
  let mul : Event .instruction := Instruction.Retirement.mk "MUL" 4 0 [3]
  let sub : Event .instruction := Instruction.Retirement.mk "SUB" 4 0 [3]
  let add : Event .instruction := Instruction.Retirement.mk "ADD" 4 0 [3]
  let settings : Settings := { mode := some "inject", outcomePath := some "outcome.txt" }
  let faults : List (Fault .instruction) :=
    [ { trigger := 1, identity := ⟨0, "MUL"⟩, mask := 16, expected := 5 },
      { trigger := 1, identity := ⟨0, "SUB"⟩, mask := 16, expected := 3 },
      { trigger := 2, identity := ⟨0, "ADD"⟩, mask := 16, expected := 3 } ]
  let plan : Plan .instruction := ⟨faults, by decide, by decide, by decide⟩
  let start : Session .instruction := ⟨.withPlan settings plan, .empty⟩
  have writable : Disk.empty.CanWrite "outcome.txt" :=
    ⟨⟨false, ["outcome.txt"]⟩, by decide +kernel, Or.inl (by decide)⟩
  have keeps (event : Event .instruction) :
      ∀ next ∈ [Turn.report (some event)], next.KeepsOpen "outcome.txt" := by
    intro next mem
    obtain rfl := List.mem_singleton.1 mem
    trivial
  have alike := (history_independent settings plan (by decide +kernel) "outcome.txt" rfl .empty
    .empty writable writable [.report (some mul)] [.report (some sub)] (keeps mul) (keeps sub)
    rfl add).1
  have seen : ((start.after [.report (some mul)]).reply (some add)).seen =
      (.ok (), some (Instruction.Retirement.mk "ADD" 4 0 [19])) := by decide +kernel
  exact ⟨start, mul, sub, add, _, rfl, by decide +kernel, by decide +kernel, seen,
    alike.symm.trans seen⟩

end FaultReplay
