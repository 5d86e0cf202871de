import FaultReplay.Fault.Basic
import FaultReplay.Field

/-!
# Records of instruction faults

An instruction fault is written as five fields: trigger, mask, expected value, core and label.
-/

namespace FaultReplay.Instruction

open Numeral (decimal)

/-- The number of fields of a record. -/
def recordLength : Nat := 5

/-- The fault that a record describes. -/
def faultOfFields : List String → Except Error (Fault .instruction)
  | [trigger, mask, expected, core, label] => do
    let trigger ← Field.number "trigger iteration" trigger
    let core ← Field.number "core id" core
    let mask ← Field.number "corruption mask" mask
    let expected ← Field.number "expected register value" expected
    return { trigger, identity := ⟨core, label⟩, mask, expected }
  | fields => .error (.instructionRecordLength recordLength fields.length)

/-- The fields of a fault's record. -/
def faultFields (fault : Fault .instruction) : List String :=
  [ decimal fault.trigger.toNat, decimal fault.mask.toNat, decimal fault.expected.toNat,
    decimal fault.identity.core.toNat, fault.identity.label ]

/-- What an outcome repeats of a fault. -/
def faultEcho (fault : Fault .instruction) : List (String × String) :=
  [ ("trigger_iteration", decimal fault.trigger.toNat),
    ("corruption_mask", decimal fault.mask.toNat),
    ("expected_prior_value", decimal fault.expected.toNat),
    ("core_id", decimal fault.identity.core.toNat),
    ("label", fault.identity.label) ]

/-- What keeps a fault out of a plan: a register has no second cell. -/
def faultProblem? (fault : Fault .instruction) : Option Error :=
  if fault.multiCell || fault.secondary.isSome then some (.multiCellInstruction fault.trigger)
  else none

theorem faultProblem?_eq_none_iff {fault : Fault .instruction} :
    faultProblem? fault = none ↔ fault.multiCell = false ∧ fault.secondary = none := by
  simp [faultProblem?]

end FaultReplay.Instruction
