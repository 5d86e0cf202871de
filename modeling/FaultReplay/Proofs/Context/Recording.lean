import FaultReplay.Proofs.Context.Effect

/-!
# The record of a fault

The outcome is written after the fault is applied, so a fault that was applied has its record
exactly if the path for outcomes takes bytes. Where the path does not, the fault is there all the
same: that a path is configured is all that is checked beforehand.
-/

namespace FaultReplay

variable {d : Domain} {context : Context d} {disk : Disk} {event : Event d} {fault : Fault d}
  {reply : Reply d} {path : String}

namespace Reply

/-- Whether the record of a fault was written is decided by the path before the call. -/
theorem Records.result_eq_ok_iff (h : reply.Records disk path (fault.outcome event)) :
    reply.result = .ok () ↔ disk.CanWrite path := by
  rw [← Disk.isSome_write?_iff (fault.bytes_outcome_ne_empty event)]
  cases h with
  | written result saved => simp [result, saved]
  | refused result kept unsaved => simp [result, unsaved]

theorem Records.read?_eq_iff (h : reply.Records disk path (fault.outcome event)) :
    reply.disk.read? path = some (fault.outcome event).bytes ↔ disk.CanWrite path := by
  have full := fault.bytes_outcome_ne_empty event
  rw [← Disk.isSome_write?_iff full]
  cases h with
  | written result saved => simp only [Disk.read?_of_write? full saved, saved, Option.isSome_some]
  | refused result kept unsaved =>
      rw [kept, unsaved]
      simp only [Option.isSome_none, Bool.false_eq_true, iff_false]
      intro held
      have writable := (Disk.isSome_write?_iff full).2 (Disk.canWrite_of_read? held)
      simp [unsaved] at writable

theorem Records.result_of_not_canWrite (h : reply.Records disk path (fault.outcome event))
    (closed : ¬ disk.CanWrite path) : reply.result = .error (.outcomeUnwritable path) := by
  have failed : reply.result ≠ .ok () := fun ok => closed (h.result_eq_ok_iff.1 ok)
  cases h with
  | written result saved => exact absurd result failed
  | refused result => exact result

end Reply

namespace Context

/-- A call that applies a fault goes on to write its record to the path for outcomes. -/
theorem records_of_strikes
    (struck : (context.hook disk (some event)).Strikes context disk event fault)
    (outcomesAt : context.settings.outcomePath = some path) :
    (context.hook disk (some event)).Records disk path (fault.outcome event) := by
  obtain ⟨spared, -⟩ | ⟨same, place, struckToo, placeAt, ended⟩ := context.hook_some disk event
  · exact absurd spared (not_spares_of_strikes struck)
  · obtain rfl := struck.aims.unique struckToo.aims
    obtain rfl := Option.some.inj (outcomesAt.symm.trans placeAt)
    exact ended

/-- The file for outcomes holds the record of a fault that was carried out exactly if its path took
bytes before the call, and the call succeeds in the same case. -/
theorem recorded_iff_canWrite (context : Context d) (disk : Disk) (report : Option (Event d)) :
    (context.hook disk report).Spares context report ∨
    ∃ event fault path, report = some event ∧ context.settings.outcomePath = some path ∧
      (context.hook disk report).Strikes context disk event fault ∧
      ((context.hook disk report).disk.read? path = some (fault.outcome event).bytes ↔
        disk.CanWrite path) ∧
      ((context.hook disk report).result = .ok () ↔ disk.CanWrite path) ∧
      (¬ disk.CanWrite path →
        (context.hook disk report).result = .error (.outcomeUnwritable path)) := by
  cases report with
  | none => exact Or.inl ⟨rfl, rfl⟩
  | some event =>
      obtain ⟨spared, -⟩ | ⟨fault, path, struck, outcomePath, ended⟩ :=
        context.hook_some disk event
      · exact Or.inl spared
      · exact Or.inr ⟨event, fault, path, rfl, outcomePath, struck, ended.read?_eq_iff,
          ended.result_eq_ok_iff, ended.result_of_not_canWrite⟩

/-- A fault can be applied without a record of it: the directory of the outcome is missing, and the
register is struck before that shows. -/
theorem exists_fault_without_record :
    ¬ ∀ (context : Context .instruction) (disk : Disk) (retired : Event .instruction)
      (path : String), context.mode = .ok .inject → context.settings.outcomePath = some path →
      (context.hook disk (some retired)).context.injections ≠ context.injections →
      ∃ fault : Fault .instruction,
        (context.hook disk (some retired)).disk.read? path =
          some (fault.outcome retired).bytes := by
  intro always
  let fault : Fault .instruction :=
    { trigger := 1, identity := ⟨0, "ADD"⟩, mask := 16, expected := 3 }
  let context : Context .instruction :=
    .withPlan { mode := some "inject", outcomePath := some "missing/outcome.txt" }
      ⟨[fault], by decide, by decide, by decide⟩
  let retired : Event .instruction := Instruction.Retirement.mk "ADD" 4 0 [3]
  have unread : (context.hook .empty (some retired)).disk.read? "missing/outcome.txt" = none := by
    decide +kernel
  obtain ⟨applied, record⟩ := always context .empty retired "missing/outcome.txt"
    (by decide +kernel) rfl (by decide +kernel)
  exact absurd (unread.symm.trans record) (by simp)

end Context

end FaultReplay
