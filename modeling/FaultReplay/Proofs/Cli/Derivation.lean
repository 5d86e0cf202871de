import FaultReplay.Cli.Run
import FaultReplay.Proofs.Disk.Files
import FaultReplay.Proofs.Plan.Reading
import FaultReplay.Proofs.Profile.Aiming

/-!
# Plans that are derived

The tool prints the plan it derives from a log. A log has room for labels that a plan has not: its
fields end at semicolons, those of a plan at blanks. So what was printed can be loaded as the plan
that was derived exactly if the labels of the picked events are words, and of a memory log always.
-/

namespace FaultReplay

variable {d : Domain}

/-! ### Saved texts -/

theorem Disk.readText?_of_write? {disk saved : Disk} {path text : String} (nonempty : text ≠ "")
    (h : disk.write? path text.toUTF8 = some saved) : saved.readText? path = some text :=
  readText?_eq_some_iff.2 (read?_of_write? (Text.toUTF8_ne_empty nonempty) h)

theorem Disk.exists_saved {disk : Disk} {path text : String} (h : disk.CanWrite path)
    (nonempty : text ≠ "") :
    ∃ saved, disk.write? path text.toUTF8 = some saved ∧ saved.readText? path = some text := by
  have full := Text.toUTF8_ne_empty nonempty
  obtain ⟨saved, written⟩ := Option.isSome_iff_exists.1 ((isSome_write?_iff full).2 h)
  exact ⟨saved, written, readText?_of_write? nonempty written⟩

theorem Plan.render_ne_empty (plan : Plan d) : plan.render ≠ "" := by
  intro empty
  have chars := congrArg String.toList empty
  simp [render] at chars

/-! ### Derived faults -/

/-- The fault for an entry has a distance wherever a record has a place for one. -/
theorem Entry.settled_of_fault {entry : Entry d} {mask : UInt64} {secondary : Option UInt64}
    {fault : Fault d} (h : entry.fault mask secondary = .ok fault) : fault.settled = fault := by
  cases d with
  | instruction => rfl
  | memory =>
      have yields := (Entry.yields_of_fault (d := .memory) nofun h).2
      have distance : fault.secondary = some (secondary.getD 0) := yields.secondary
      rw [Fault.settled, Fault.distance, distance, Option.getD_some, ← distance]

theorem Plan.settled_of_derive {log : String} {text : Option String} {events : List UInt64}
    {mask : UInt64} {secondary : Option UInt64} {plan : Plan d}
    (h : derive d log text events mask secondary = .ok plan) :
    ∀ fault ∈ plan.faults, fault.settled = fault := by
  obtain ⟨faults, derived, h⟩ := Except.exists_of_bind_eq_ok h
  rw [faults_of_ofFaults h]
  intro fault mem
  obtain ⟨number, -, derived⟩ := Except.exists_of_mem_mapM derived fault mem
  obtain ⟨entry, -, aimed⟩ := Except.exists_of_bind_eq_ok derived
  exact Entry.settled_of_fault aimed

/-! ### The two commands -/

namespace Cli

theorem orRefused_eq_ok_iff {α : Type} {answer : Except Error α} {a : α} :
    orRefused answer = .ok a ↔ answer = .ok a := by
  cases answer <;> simp [orRefused]

theorem run_validate_eq_ok_iff {path out : String} {text : Option String} :
    (Command.validate d path).run text = .ok out ↔
      ∃ plan, Plan.ofFile d path text = .ok plan ∧ plan.render = out := by
  constructor
  · intro h
    obtain ⟨plan, read, h⟩ := Except.exists_of_bind_eq_ok h
    cases h
    exact ⟨plan, orRefused_eq_ok_iff.1 read, rfl⟩
  · rintro ⟨plan, read, rfl⟩
    rw [Command.run, read]
    rfl

theorem exists_of_run_derive {log out : String} {text : Option String} {events : List UInt64}
    {mask : UInt64} {secondary : Option UInt64}
    (h : (Command.derive d log events mask secondary).run text = .ok out) :
    ∃ plan, Plan.derive d log text events mask secondary = .ok plan ∧ plan.render = out := by
  rw [Command.run] at h
  split at h
  · cases h
  · obtain ⟨plan, derived, h⟩ := Except.exists_of_bind_eq_ok h
    cases h
    exact ⟨plan, orRefused_eq_ok_iff.1 derived, rfl⟩

/-- What a derivation prints is the text of the plan that it derived. Saved as a file it is loaded
as that plan and validated without a change exactly if every label of that plan is a word. -/
theorem derived_plan_loads_iff {log out : String} {text : Option String} {events : List UInt64}
    {mask : UInt64} {secondary : Option UInt64}
    (printed : (Command.derive d log events mask secondary).run text = .ok out) :
    ∃ plan, Plan.derive d log text events mask secondary = .ok plan ∧ plan.render = out ∧
      ∀ (disk saved : Disk) (path : String), disk.write? path out.toUTF8 = some saved →
        ((Plan.load d saved path = .ok plan ∧
            (Command.validate d path).run (saved.readText? path) = .ok out) ↔
          ∀ fault ∈ plan.faults, fault.Printable) := by
  obtain ⟨plan, derived, rfl⟩ := exists_of_run_derive printed
  refine ⟨plan, derived, rfl, ?_⟩
  intro disk saved path written
  have settled := Plan.settled_of_derive derived
  rw [Plan.load, Disk.readText?_of_write? plan.render_ne_empty written, Plan.ofFile,
    run_validate_eq_ok_iff, Plan.ofFile]
  constructor
  · rintro ⟨loaded, -⟩ fault mem
    exact (Plan.parse_render_iff.1 loaded fault mem).1
  · intro printable
    have loaded : Plan.parse d plan.render = .ok plan :=
      Plan.parse_render_iff.2 fun fault mem => ⟨printable fault mem, settled fault mem⟩
    exact ⟨loaded, plan, loaded, rfl⟩

/-- The plan for an event with an ordinary label is printed, saved, loaded and validated. -/
theorem derived_plan_loads_add :
    ∃ (plan : Plan .instruction) (saved : Disk),
      (Command.derive .instruction "log.txt" [2] 16 none).run (some "2;ADD;4;0;1;8\n") =
        .ok "1\n2 16 8 0 ADD\n" ∧
      Plan.derive .instruction "log.txt" (some "2;ADD;4;0;1;8\n") [2] 16 none = .ok plan ∧
      Plan.load .instruction saved "plan.txt" = .ok plan ∧
      (Command.validate .instruction "plan.txt").run (saved.readText? "plan.txt") =
        .ok "1\n2 16 8 0 ADD\n" := by
  let fault : Fault .instruction :=
    { trigger := 2, identity := ⟨0, "ADD"⟩, mask := 16, expected := 8 }
  have printed : (Command.derive .instruction "log.txt" [2] 16 none).run
      (some "2;ADD;4;0;1;8\n") = .ok "1\n2 16 8 0 ADD\n" := by decide +kernel
  have picked : Plan.derive .instruction "log.txt" (some "2;ADD;4;0;1;8\n") [2] 16 none =
      .ok ⟨[fault], by decide, by decide, by decide⟩ := by decide +kernel
  obtain ⟨plan, derived, -, loads⟩ := derived_plan_loads_iff printed
  obtain rfl := Except.ok.inj (derived.symm.trans picked)
  have vacant : Disk.empty.IsVacant "plan.txt" :=
    ⟨⟨false, ["plan.txt"]⟩, by decide +kernel, by decide⟩
  obtain ⟨saved, written, -⟩ := Disk.exists_saved vacant.canWrite
    (by decide : "1\n2 16 8 0 ADD\n" ≠ "")
  have printable : ∀ other ∈ [fault], other.Printable := by
    intro other mem
    obtain rfl := List.mem_singleton.1 mem
    exact (by decide : Text.IsWord "ADD")
  obtain ⟨loaded, validated⟩ := (loads .empty saved "plan.txt" written).2 printable
  exact ⟨_, saved, printed, derived, loaded, validated⟩

/-- Of the labels picked here one has a blank and one has no characters: the printed plan is valid
and strikes an event that was never picked. -/
theorem exists_derived_plan_misread :
    ¬ ∀ (d : Domain) (log : String) (text : Option String) (events : List UInt64) (mask : UInt64)
      (secondary : Option UInt64) (out : String),
      (Command.derive d log events mask secondary).run text = .ok out →
      ∀ (disk saved : Disk) (path : String), disk.write? path out.toUTF8 = some saved →
      ∃ plan, Plan.derive d log text events mask secondary = .ok plan ∧
        Plan.load d saved path = .ok plan ∧
        (Command.validate d path).run (saved.readText? path) = .ok out := by
  intro always
  let log := "2;b 7;4;0;1;8\n3;;4;9;1;16\n"
  let out := "2\n2 1 8 0 b 7\n3 1 16 9 \n"
  have vacant : Disk.empty.IsVacant "plan.txt" :=
    ⟨⟨false, ["plan.txt"]⟩, by decide +kernel, by decide⟩
  obtain ⟨saved, written, held⟩ := Disk.exists_saved vacant.canWrite (by decide : out ≠ "")
  obtain ⟨plan, -, loaded, validated⟩ := always .instruction "log.txt" (some log) [2, 3] 1 none out
    (by decide +kernel) .empty saved "plan.txt" written
  have unlike : (Command.validate .instruction "plan.txt").run (some out) =
      .ok "2\n2 1 8 0 b\n7 3 1 16 9\n" := by decide +kernel
  rw [held, unlike] at validated
  exact absurd validated (by decide)

end Cli

end FaultReplay
