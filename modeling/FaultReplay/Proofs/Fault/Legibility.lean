import FaultReplay.Proofs.Fault.Attestation
import FaultReplay.Proofs.Outcome.Reading
import FaultReplay.Proofs.Plan.Reading

/-!
# Records of faults that can be read

A record of a fault consists of numbers under fixed keys, and for an instruction the label comes
last. So the label alone decides whether the record comes back, and the labels of a plan that was
read from a text never stand in the way.
-/

namespace FaultReplay

open Numeral (decimal)
open Text (IsLine IsWord)

variable {d : Domain} {fault : Fault d} {event : Event d}

/-- The keys of a record of a fault, in the order of its lines. -/
def Outcome.keys : Domain → List String
  | .instruction =>
    [ "reg_val_before", "reg_val_after", "trigger_iteration", "corruption_mask",
      "expected_prior_value", "core_id", "label" ]
  | .memory =>
    [ "mem_val_before", "mem_val_after", "secondary_val_before", "secondary_val_after",
      "trigger_iteration", "corruption_mask", "expected_prior_value", "offset", "access_size",
      "total_size", "multi_cell", "secondary_offset" ]

theorem Outcome.plain_of_mem_keys {key : String} (h : key ∈ keys d) :
    ':' ∉ key.toList ∧ '\n' ∉ key.toList := by
  have plain : ∀ key ∈ keys d, ':' ∉ key.toList ∧ '\n' ∉ key.toList := by
    cases d <;> decide
  exact plain key h

namespace Fault

/-- The faults whose records can be read: the label of an instruction has to stand at the end of a
line. -/
def Inscribable : {d : Domain} → Fault d → Prop
  | .instruction, fault => IsLine (Fault.identity fault).label
  | .memory, _ => True

theorem keys_outcome (fault : Fault d) (event : Event d) :
    (fault.outcome event).fields.map Prod.fst = Outcome.keys d := by
  cases d <;> rfl

/-- All that a record holds is on one line, except perhaps the label. -/
theorem isLine_outcome_iff (fault : Fault d) (event : Event d) :
    (∀ field ∈ (fault.outcome event).fields, IsLine field.2) ↔ fault.Inscribable := by
  have number (n : Nat) : IsLine (decimal n) := (Text.isWord_decimal n).isLine
  have flag (on : Bool) : IsLine (Memory.flagText on) := by cases on <;> decide
  cases d with
  | instruction =>
      simp [outcome, Outcome.ofFault, sights, echo, Instruction.faultEcho, number, Inscribable]
  | memory =>
      simp [outcome, Outcome.ofFault, sights, echo, Memory.faultEcho, number, flag, Inscribable]

theorem legible_outcome_iff :
    (∀ field ∈ (fault.outcome event).fields, Outcome.Legible field) ↔ fault.Inscribable := by
  rw [← isLine_outcome_iff fault event]
  apply forall₂_congr
  intro field mem
  have key : field.1 ∈ Outcome.keys d := by
    rw [← fault.keys_outcome event]
    exact List.mem_map_of_mem mem
  obtain ⟨whole, single⟩ := Outcome.plain_of_mem_keys key
  exact ⟨fun legible => legible.value, fun value => ⟨whole, single, value⟩⟩

/-- A fault whose record in a plan can be read has records of its effect that can be read. -/
theorem Printable.inscribable (h : fault.Printable) : fault.Inscribable := by
  cases d with
  | instruction => exact IsWord.isLine h
  | memory => trivial

end Fault

end FaultReplay
