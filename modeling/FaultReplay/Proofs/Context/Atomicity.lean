import FaultReplay.Proofs.Context.Effect

/-!
# Reports that fail

A report that fails has either done nothing at all or carried out a whole fault whose outcome could
not be written. There is nothing in between: a fault with two cells is never left with one.
-/

namespace FaultReplay

variable {d : Domain} {context : Context d} {disk : Disk} {report : Option (Event d)}
  {reply : Reply d}

/-- A report that left its event, the count of applied faults and every file as they were. -/
structure Reply.Untouched (reply : Reply d) (context : Context d) (disk : Disk)
    (report : Option (Event d)) : Prop extends reply.Spares context report where
  disk : reply.disk = disk

/-- A report that carried out a whole fault and failed to write its outcome. -/
def Reply.Unrecorded (reply : Reply d) (context : Context d) (disk : Disk)
    (report : Option (Event d)) : Prop :=
  ∃ event fault path, report = some event ∧ reply.Strikes context disk event fault ∧
    context.settings.outcomePath = some path ∧
    reply.result = .error (.outcomeUnwritable path)

namespace Context

theorem not_unrecorded_of_untouched (h : reply.Untouched context disk report) :
    ¬ reply.Unrecorded context disk report := by
  rintro ⟨event, fault, path, -, struck, -⟩
  exact not_spares_of_strikes struck h.toSpares

theorem untouched_or_unrecorded {e : Error} (h : (context.hook disk report).result = .error e) :
    (context.hook disk report).Untouched context disk report ∨
      (context.hook disk report).Unrecorded context disk report := by
  cases report with
  | none => exact Or.inl ⟨⟨rfl, rfl⟩, rfl⟩
  | some event =>
      obtain ⟨spared, kept⟩ | ⟨fault, path, struck, outcomePath, ended⟩ :=
        context.hook_some disk event
      · exact Or.inl ⟨spared, kept e h⟩
      · cases ended with
        | written result => cases result.symm.trans h
        | refused result => exact Or.inr ⟨event, fault, path, rfl, struck, outcomePath, result⟩

/-- A failed report has left everything as it was, or has carried out one whole fault and could not
write its outcome, and never both. -/
theorem hook_atomic (context : Context d) (disk : Disk) (report : Option (Event d)) :
    (∀ e, (context.hook disk report).result = .error e →
      Xor ((context.hook disk report).Untouched context disk report)
        ((context.hook disk report).Unrecorded context disk report) ∧
      (e.kind ≠ .configuration ∨ e.fromFile = false →
        (context.hook disk report).Untouched context disk report)) ∧
    ((context.hook disk report).event = report ∨
      ∃ event fault, report = some event ∧
        (context.hook disk report).Strikes context disk event fault) := by
  constructor
  · intro e failed
    have cases := untouched_or_unrecorded failed
    constructor
    · rcases cases with untouched | unrecorded
      · exact Or.inl ⟨untouched, not_unrecorded_of_untouched untouched⟩
      · exact Or.inr ⟨unrecorded, fun untouched =>
          not_unrecorded_of_untouched untouched unrecorded⟩
    · intro other
      rcases cases with untouched | ⟨event, fault, path, -, -, -, result⟩
      · exact untouched
      · cases failed.symm.trans result
        simp [Error.kind, Error.fromFile] at other
  · cases report with
    | none => exact Or.inl rfl
    | some event =>
        obtain ⟨spared, -⟩ | ⟨fault, path, struck, -⟩ := context.hook_some disk event
        · exact Or.inl spared.event
        · exact Or.inr ⟨event, fault, rfl, struck⟩

/-- Both cells of the fault are there after the write to a full device has failed. -/
theorem hook_atomic_full_device :
    ∃ (context : Context .memory) (disk : Disk) (region struck : Array UInt8)
      (identity : Memory.Identity),
      region = #[6, 8] ∧ struck = #[7, 9] ∧
        (context.hook disk (some ⟨region, identity⟩)).result =
          .error (.outcomeUnwritable "/dev/full") ∧
        (context.hook disk (some ⟨region, identity⟩)).event = some ⟨struck, identity⟩ ∧
        (context.hook disk (some ⟨region, identity⟩)).Unrecorded context disk
          (some ⟨region, identity⟩) := by
  let fault : Fault .memory :=
    { trigger := 1, identity := ⟨0, 1, 2⟩, mask := 1, expected := 6, secondary := some 1,
      multiCell := true }
  let context : Context .memory :=
    .withPlan { mode := some "inject", outcomePath := some "/dev/full" }
      ⟨[fault], by decide, by decide, by decide⟩
  let disk : Disk := ⟨[(⟨true, ["dev"]⟩, .directory), (⟨true, ["dev", "full"]⟩, .fullDevice)]⟩
  let access : Event .memory := Memory.Access.mk #[6, 8] ⟨0, 1, 2⟩
  have failed : (context.hook disk (some access)).result =
      .error (.outcomeUnwritable "/dev/full") := by decide +kernel
  have changed : (context.hook disk (some access)).event =
      some (Memory.Access.mk #[7, 9] ⟨0, 1, 2⟩) := by decide +kernel
  refine ⟨context, disk, #[6, 8], #[7, 9], ⟨0, 1, 2⟩, rfl, rfl, failed, changed, ?_⟩
  obtain ⟨untouched, -⟩ | ⟨unrecorded, -⟩ :=
    ((hook_atomic context disk (some access)).1 _ failed).1
  · exact absurd (changed.symm.trans untouched.event) (by decide)
  · exact unrecorded

end Context

end FaultReplay
