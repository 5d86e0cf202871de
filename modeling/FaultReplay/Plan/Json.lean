import FaultReplay.Json.Decode
import FaultReplay.Plan.Basic

/-!
# Plans as JSON

A plan is written as the array of its faults. A text that describes a list of faults is a plan
exactly if the list makes one.
-/

namespace FaultReplay

open Json (Value)

/-- An identity as a JSON value. -/
def Identity.toJson : {d : Domain} → Identity d → Value
  | .instruction, identity =>
    .ofMembers
      [ ("core_id", .ofNat identity.core.toNat), ("label", .ofText identity.label) ]
  | .memory, identity =>
    .ofMembers
      [ ("offset", .ofNat identity.offset.toNat), ("access_size", .ofNat identity.access.toNat),
        ("total_size", .ofNat identity.total.toNat) ]

/-- The identity that a JSON value stands for. -/
def Identity.ofJson? : (d : Domain) → Value → Option (Identity d)
  | .instruction, value => do
    match ← value.allFields? ["core_id", "label"] with
    | [core, label] => return Instruction.Identity.mk (← core.uint64?) (← label.text?)
    | _ => none
  | .memory, value => do
    match ← value.allFields? ["offset", "access_size", "total_size"] with
    | [offset, access, total] =>
      return Memory.Identity.mk (← offset.uint64?) (← access.uint64?) (← total.uint64?)
    | _ => none

namespace Fault

variable {d : Domain}

/-- The names of the fields. -/
def fieldNames : List String :=
  [ "trigger_iteration", "identity", "corruption_mask", "expected_prior_value",
    "secondary_offset", "multi_cell" ]

/-- A fault as a JSON value. -/
def toJson (fault : Fault d) : Value :=
  .ofMembers
    [ ("trigger_iteration", .ofNat fault.trigger.toNat),
      ("identity", Identity.toJson fault.identity),
      ("corruption_mask", .ofNat fault.mask.toNat),
      ("expected_prior_value", .ofNat fault.expected.toNat),
      ("secondary_offset", .ofOption (fun n : UInt64 => .ofNat n.toNat) fault.secondary),
      ("multi_cell", .bool fault.multiCell) ]

/-- The fault that a JSON value stands for. Only the secondary offset may be missing or null. -/
def ofJson? (d : Domain) (value : Value) : Option (Fault d) := do
  match ← value.fields? fieldNames fieldNames.length with
  | [some trigger, some identity, some mask, some expected, secondary, some multiCell] =>
    return {
      trigger := ← trigger.uint64?
      identity := ← Identity.ofJson? d identity
      mask := ← mask.uint64?
      expected := ← expected.uint64?
      secondary := ← Value.optional? Value.uint64? secondary
      multiCell := ← multiCell.bool? }
  | _ => none

/-- The faults that a JSON value lists. -/
def listOfJson? (d : Domain) (value : Value) : Option (List (Fault d)) := do
  let items ← value.items?
  items.mapM (ofJson? d)

end Fault

namespace Plan

variable {d : Domain}

/-- A plan as a JSON value. -/
def toJson (plan : Plan d) : Value :=
  .array (plan.faults.map Fault.toJson)

/-- The plan that a JSON text describes. A list that makes no plan is rejected for its own sake even
if something follows it in the text. -/
def ofJsonText (d : Domain) (text : String) : Except Json.Refusal (Plan d) :=
  match Json.readFirst text with
  | none => .error .malformed
  | some (value, rest) =>
    match Fault.listOfJson? d value with
    | none => .error .malformed
    | some faults =>
      match ofFaults faults with
      | .error e => .error (.rejected e)
      | .ok plan => if rest = [] then .ok plan else .error .malformed

end Plan

end FaultReplay
