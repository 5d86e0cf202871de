import FaultReplay.Plan.Basic
import Mathlib.Data.List.Nodup

/-!
# Looking a fault up

The targets of a plan's faults differ, so an event has at most one fault and the order in which the
plan is searched does not show.
-/

namespace FaultReplay.Plan

variable {d : Domain} {plan : Plan d} {sequence : UInt64} {identity : Identity d} {fault : Fault d}

/-- An event is compared as it stands and not through an identity made for it. -/
theorem findBy_hasIdentity (plan : Plan d) (sequence : UInt64) (event : Event d) :
    (plan.findBy sequence fun identity => Event.hasIdentity event identity) =
      plan.find sequence event.identity := by
  have same : (fun identity => Event.hasIdentity event identity) =
      fun identity => identity == event.identity := by
    funext identity
    rw [Bool.eq_iff_iff, Event.hasIdentity_iff, beq_iff_eq]
  rw [find, same]

theorem find_eq_find? (plan : Plan d) (sequence : UInt64) (identity : Identity d) :
    plan.find sequence identity =
      plan.faults.find? fun fault => fault.target = (sequence, identity) := by
  have test : (fun fault : Fault d => fault.trigger == sequence && fault.identity == identity) =
      fun fault => decide (fault.target = (sequence, identity)) := by
    funext fault
    rw [Bool.eq_iff_iff]
    simp [Fault.target]
  rw [find, findBy, test]

theorem find_eq_some_iff :
    plan.find sequence identity = some fault ↔
      fault ∈ plan.faults ∧ fault.target = (sequence, identity) := by
  rw [find_eq_find?]
  constructor
  · intro h
    exact ⟨List.mem_of_find?_eq_some h, by simpa using List.find?_some h⟩
  · rintro ⟨mem, aimed⟩
    obtain ⟨found, hf⟩ : ∃ found,
        (plan.faults.find? fun fault => fault.target = (sequence, identity)) = some found := by
      apply Option.isSome_iff_exists.1
      exact List.find?_isSome.2 ⟨fault, mem, by simpa using aimed⟩
    have hit : found.target = (sequence, identity) := by simpa using List.find?_some hf
    rw [hf, List.inj_on_of_nodup_map plan.distinct (List.mem_of_find?_eq_some hf) mem
      (hit.trans aimed.symm)]

theorem find_eq_none_iff :
    plan.find sequence identity = none ↔
      ∀ fault ∈ plan.faults, fault.target ≠ (sequence, identity) := by
  rw [Option.eq_none_iff_forall_ne_some]
  constructor
  · intro h fault mem aimed
    exact h fault (find_eq_some_iff.2 ⟨mem, aimed⟩)
  · intro h fault found
    obtain ⟨mem, aimed⟩ := find_eq_some_iff.1 found
    exact h fault mem aimed

end FaultReplay.Plan
