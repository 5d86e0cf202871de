import FaultReplay.Domain.Family
import FaultReplay.Json.Decode

/-!
# Entries of a profile as JSON
-/

namespace FaultReplay

open Json (Value)

/-- An entry of an instruction log as a JSON value. -/
def Instruction.Entry.toJson (entry : Instruction.Entry) : Value :=
  .ofMembers
    [ ("sequence", .ofNat entry.sequence.toNat), ("label", .ofText entry.identity.label),
      ("size", .ofNat entry.size.toNat), ("core_id", .ofNat entry.identity.core.toNat),
      ("out_regs", .array (entry.registers.map fun value => .ofNat value.toNat)) ]

/-- The entry of an instruction log that a JSON value stands for. -/
def Instruction.Entry.ofJson? (value : Value) : Option Instruction.Entry := do
  match ← value.allFields? ["sequence", "label", "size", "core_id", "out_regs"] with
  | [sequence, label, size, core, registers] =>
    let values ← registers.items?
    return {
      sequence := ← sequence.uint64?
      identity := ⟨← core.uint64?, ← label.text?⟩
      size := ← size.uint64?
      registers := ← values.mapM Value.uint64? }
  | _ => none

/-- An entry of a memory log as a JSON value. -/
def Memory.Entry.toJson (entry : Memory.Entry) : Value :=
  .ofMembers
    [ ("sequence", .ofNat entry.sequence.toNat), ("byte0", .ofNat entry.byte.toNat),
      ("byte1", .ofNat entry.next.toNat), ("offset", .ofNat entry.identity.offset.toNat),
      ("access_size", .ofNat entry.identity.access.toNat),
      ("total_size", .ofNat entry.identity.total.toNat) ]

/-- The entry of a memory log that a JSON value stands for. -/
def Memory.Entry.ofJson? (value : Value) : Option Memory.Entry := do
  match ← value.allFields?
      ["sequence", "byte0", "byte1", "offset", "access_size", "total_size"] with
  | [sequence, byte, next, offset, access, total] =>
    return {
      sequence := ← sequence.uint64?
      byte := ← byte.uint8?
      next := ← next.uint8?
      identity := ⟨← offset.uint64?, ← access.uint64?, ← total.uint64?⟩ }
  | _ => none

namespace Entry

/-- An entry as a JSON value. -/
def toJson : {d : Domain} → Entry d → Value
  | .instruction, entry => Instruction.Entry.toJson entry
  | .memory, entry => Memory.Entry.toJson entry

/-- The entry that a JSON value stands for. -/
def ofJson? : (d : Domain) → Value → Option (Entry d)
  | .instruction, value => Instruction.Entry.ofJson? value
  | .memory, value => Memory.Entry.ofJson? value

end Entry

end FaultReplay
