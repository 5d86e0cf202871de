import FaultReplay.Fault.Basic
import FaultReplay.Field

/-!
# Records of memory faults

A memory fault is written as eight fields: trigger, mask, expected value, offset, access size, total
size, the multi-cell flag and the secondary offset. It flips bits of single bytes, so its mask and
its expected value are bytes.
-/

namespace FaultReplay.Memory

open Numeral (decimal)

/-- The number of fields of a record. -/
def recordLength : Nat := 8

/-- What keeps a fault out of a plan: a value wider than a byte, or a second cell without a
place. -/
def faultProblem? (fault : Fault .memory) : Option Error :=
  if 255 < fault.mask then some (.wideValue "corruption mask" fault.mask fault.trigger)
  else if 255 < fault.expected then
    some (.wideValue "expected memory value" fault.expected fault.trigger)
  else if fault.multiCell = true ∧ fault.distance = 0 then
    some (.noSecondaryOffset fault.trigger)
  else none

theorem faultProblem?_eq_none_iff {fault : Fault .memory} :
    faultProblem? fault = none ↔
      fault.mask ≤ 255 ∧ fault.expected ≤ 255 ∧
        (fault.multiCell = true → fault.distance ≠ 0) := by
  by_cases mask : fault.mask ≤ 255
  · by_cases expected : fault.expected ≤ 255
    · simp [faultProblem?, UInt64.not_lt.2 mask, UInt64.not_lt.2 expected, mask, expected]
    · simp [faultProblem?, UInt64.not_lt.2 mask, UInt64.not_le.1 expected, expected]
  · simp [faultProblem?, UInt64.not_le.1 mask, mask]

/-- The fault that a record describes. -/
def faultOfFields : List String → Except Error (Fault .memory)
  | [trigger, mask, expected, offset, access, total, multiCell, secondary] => do
    let trigger ← Field.number "trigger iteration" trigger
    let offset ← Field.number "offset" offset
    let access ← Field.number "access size" access
    let total ← Field.number "total size" total
    let mask ← Field.number "corruption mask" mask
    let expected ← Field.number "expected memory value" expected
    let secondary ← Field.number "secondary offset" secondary
    let multiCell ← Field.flag "multi-cell flag" multiCell
    let fault : Fault .memory :=
      { trigger, identity := ⟨offset, access, total⟩, mask, expected,
        secondary := some secondary, multiCell }
    match faultProblem? fault with
    | some e => .error e
    | none => .ok fault
  | fields => .error (.memoryRecordLength recordLength fields.length)

/-- The flag as a digit. -/
def flagText (flag : Bool) : String :=
  if flag then "1" else "0"

/-- The fields of a fault's record. A missing secondary offset is written as 0. -/
def faultFields (fault : Fault .memory) : List String :=
  [ decimal fault.trigger.toNat, decimal fault.mask.toNat, decimal fault.expected.toNat,
    decimal fault.identity.offset.toNat, decimal fault.identity.access.toNat,
    decimal fault.identity.total.toNat, flagText fault.multiCell,
    decimal fault.distance.toNat ]

/-- What an outcome repeats of a fault. -/
def faultEcho (fault : Fault .memory) : List (String × String) :=
  [ ("trigger_iteration", decimal fault.trigger.toNat),
    ("corruption_mask", decimal fault.mask.toNat),
    ("expected_prior_value", decimal fault.expected.toNat),
    ("offset", decimal fault.identity.offset.toNat),
    ("access_size", decimal fault.identity.access.toNat),
    ("total_size", decimal fault.identity.total.toNat),
    ("multi_cell", flagText fault.multiCell),
    ("secondary_offset", decimal fault.distance.toNat) ]

end FaultReplay.Memory
