import FaultReplay.Instruction.Record
import FaultReplay.Memory.Record

/-!
# Records

A fault as the fields of one line of a plan, and the condition under which it may be part of one,
for either domain.
-/

namespace FaultReplay

/-- The number of fields in a record of the domain. -/
def Domain.recordLength : Domain → Nat
  | .instruction => Instruction.recordLength
  | .memory => Memory.recordLength

/-- Whether a record of the domain may stand for a plan without a count before it. -/
def Domain.readsBareRecord : Domain → Bool
  | .instruction => false
  | .memory => true

namespace Fault

/-- The fault that a record describes. -/
def ofFields : (d : Domain) → List String → Except Error (Fault d)
  | .instruction, fields => Instruction.faultOfFields fields
  | .memory, fields => Memory.faultOfFields fields

/-- The fields of a fault's record. -/
def fields : {d : Domain} → Fault d → List String
  | .instruction, fault => Instruction.faultFields fault
  | .memory, fault => Memory.faultFields fault

theorem length_fields {d : Domain} (fault : Fault d) : fault.fields.length = d.recordLength := by
  cases d <;> rfl

/-- The record of a fault as a line. -/
def render {d : Domain} (fault : Fault d) : String :=
  " ".intercalate fault.fields

/-- What an outcome repeats of a fault. -/
def echo : {d : Domain} → Fault d → List (String × String)
  | .instruction, fault => Instruction.faultEcho fault
  | .memory, fault => Memory.faultEcho fault

/-- What keeps a fault out of a plan. -/
def problem? : {d : Domain} → Fault d → Option Error
  | .instruction, fault => Instruction.faultProblem? fault
  | .memory, fault => Memory.faultProblem? fault

/-- A fault that the domain can apply. -/
def Valid : {d : Domain} → Fault d → Prop
  | .instruction, fault => fault.multiCell = false ∧ fault.secondary = none
  | .memory, fault =>
    fault.mask ≤ 255 ∧ fault.expected ≤ 255 ∧ (fault.multiCell = true → fault.distance ≠ 0)

theorem problem?_eq_none_iff {d : Domain} {fault : Fault d} :
    fault.problem? = none ↔ fault.Valid := by
  cases d with
  | instruction => exact Instruction.faultProblem?_eq_none_iff
  | memory => exact Memory.faultProblem?_eq_none_iff

instance instDecidableValid {d : Domain} (fault : Fault d) : Decidable fault.Valid :=
  decidable_of_iff _ problem?_eq_none_iff

end Fault

end FaultReplay
