import FaultReplay.Proofs.Plan.Lookup
import FaultReplay.Proofs.Plan.Soundness
import Mathlib.Data.List.Find

/-!
# The order of the faults

A search takes the first fault that it hits. The targets of a plan's faults differ, so a search that
is after one event can hit one fault only, and it finds that fault wherever it stands.
-/

namespace FaultReplay.Plan

variable {d : Domain} {faults other : List (Fault d)} {p q : Plan d}

theorem Sound.perm (h : Sound faults) (order : faults.Perm other) : Sound other where
  short := order.length_eq ▸ h.short
  apart := nodup_targets_iff.1 ((order.map _).nodup_iff.1 (nodup_targets_iff.2 h.apart))
  applicable := fun fault mem => h.applicable fault (order.mem_iff.2 mem)

theorem exists_ofFaults_of_perm (order : faults.Perm other) :
    (∃ plan, ofFaults faults = .ok plan) → ∃ plan, ofFaults other = .ok plan := by
  rintro ⟨plan, accepted⟩
  have sound : Sound faults := faults_of_ofFaults accepted ▸ plan.sound
  obtain ⟨reordered, accepted, -⟩ := (sound.perm order).exists_plan
  exact ⟨reordered, accepted⟩

/-- A list of faults is accepted in every order or in none. -/
theorem exists_ofFaults_iff_of_perm (order : faults.Perm other) :
    (∃ plan, ofFaults faults = .ok plan) ↔ ∃ plan, ofFaults other = .ok plan :=
  ⟨exists_ofFaults_of_perm order, exists_ofFaults_of_perm order.symm⟩

/-- A search for one identity finds the same fault in both orders. -/
theorem findBy_eq_of_perm (order : p.faults.Perm q.faults) (sequence : UInt64)
    {test : Identity d → Bool}
    (single : ∀ one two, test one = true → test two = true → one = two) :
    p.findBy sequence test = q.findBy sequence test := by
  apply List.find?_eq_find?_of_perm order
  rintro fault ⟨mem, hit⟩ rival ⟨memToo, hitToo⟩
  simp only [Bool.and_eq_true, beq_iff_eq] at hit hitToo
  have aimed : fault.target = rival.target :=
    Prod.ext (hit.1.trans hitToo.1.symm) (single _ _ hit.2 hitToo.2)
  exact List.inj_on_of_nodup_map p.distinct mem memToo aimed

theorem find_eq_of_perm (order : p.faults.Perm q.faults) (sequence : UInt64)
    (identity : Identity d) : p.find sequence identity = q.find sequence identity := by
  apply findBy_eq_of_perm order
  intro one two same sameToo
  exact (beq_iff_eq.1 same).trans (beq_iff_eq.1 sameToo).symm

end FaultReplay.Plan
