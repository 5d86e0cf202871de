import FaultReplay.Plan.Basic

/-!
# Sound lists of faults

What a list of faults must be to make a plan, said of the list alone: it is short, no two of its
faults have the same event, and each of them can be carried out in its domain. Exactly such lists
are accepted, whatever they come from.
-/

namespace FaultReplay

variable {d : Domain}

/-- A fault that its domain can carry out: an instruction has no second cell; a memory fault flips
bits of a byte that held a byte, and a second byte only at a given distance from the first. -/
def Fault.Applicable : {d : Domain} → Fault d → Prop
  | .instruction, fault => fault.multiCell = false ∧ fault.secondary = none
  | .memory, fault =>
    fault.mask ≤ 255 ∧ fault.expected ≤ 255 ∧
      (fault.multiCell = true → ∃ distance, fault.secondary = some distance ∧ distance ≠ 0)

/-- A list of faults that a run can carry. -/
structure Plan.Sound (faults : List (Fault d)) : Prop where
  short : faults.length ≤ 3
  apart : faults.Pairwise fun one other =>
    ¬ (one.trigger = other.trigger ∧ one.identity = other.identity)
  applicable : ∀ fault ∈ faults, fault.Applicable

theorem Fault.valid_iff_applicable {fault : Fault d} : fault.Valid ↔ fault.Applicable := by
  cases d with
  | instruction => exact Iff.rfl
  | memory =>
      apply and_congr Iff.rfl
      apply and_congr Iff.rfl
      apply imp_congr Iff.rfl
      rw [distance]
      cases fault.secondary <;> simp

namespace Plan

theorem nodup_targets_iff {faults : List (Fault d)} :
    (faults.map Fault.target).Nodup ↔ faults.Pairwise fun one other =>
      ¬ (one.trigger = other.trigger ∧ one.identity = other.identity) := by
  rw [List.Nodup, List.pairwise_map]
  simp only [Fault.target, ne_eq, Prod.mk.injEq]

/-- The faults of a plan are sound. -/
theorem sound (plan : Plan d) : Sound plan.faults where
  short := plan.length_le
  apart := nodup_targets_iff.1 plan.distinct
  applicable := fun fault mem => Fault.valid_iff_applicable.1 (plan.valid fault mem)

theorem Sound.exists_plan {faults : List (Fault d)} (h : Sound faults) :
    ∃ plan, ofFaults faults = .ok plan ∧ plan.faults = faults := by
  let plan : Plan d :=
    { faults
      length_le := h.short
      valid := fun fault mem => Fault.valid_iff_applicable.2 (h.applicable fault mem)
      distinct := nodup_targets_iff.2 h.apart }
  exact ⟨plan, ofFaults_faults plan, rfl⟩

/-- The lists that are accepted are the sound ones, and they are accepted as they are. -/
theorem exists_ofFaults_iff {faults : List (Fault d)} :
    (∃ plan, ofFaults faults = .ok plan ∧ plan.faults = faults) ↔ Sound faults := by
  constructor
  · rintro ⟨plan, -, rfl⟩
    exact plan.sound
  · exact Sound.exists_plan

end Plan

end FaultReplay
