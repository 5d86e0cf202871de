import FaultReplay.Fault.Basic
import FaultReplay.Field
import FaultReplay.Profile.Line

/-!
# Entries of an instruction log

An entry is written as sequence number, label, size, core, number of registers and the registers'
values. A line may carry more values than it declares; they are not read.
-/

namespace FaultReplay.Instruction.Entry

open Numeral (decimal)

/-- The entry of an event. -/
def observe (sequence : UInt64) (retired : Retirement) : Entry :=
  ⟨sequence, retired.identity, retired.size, retired.registers⟩

/-- The line of an entry. -/
def render (entry : Entry) : String :=
  Profile.line
    (decimal entry.sequence.toNat :: entry.identity.label :: decimal entry.size.toNat ::
      decimal entry.identity.core.toNat :: decimal entry.registers.length ::
      entry.registers.map fun value => decimal value.toNat)

/-- The entry on a line. -/
def parse (line : String) : Except Error Entry :=
  match Profile.fields line with
  | sequence :: label :: size :: core :: count :: values => do
    let count ← Field.number "output register count" count
    if values.length < count.toNat then
      .error (.missingRegisters line count)
    else
      let sequence ← Field.number "counter" sequence
      let size ← Field.number "size" size
      let core ← Field.number "core id" core
      let registers ← (values.take count.toNat).mapM (Field.number "register value")
      return { sequence, identity := ⟨core, label⟩, size, registers }
  | _ => .error (.malformedInstructionLine line)

/-- The fault that flips bits of the one register that an entry's event wrote. -/
def fault (entry : Entry) (mask : UInt64) : Except Error (Fault .instruction) :=
  match entry.registers with
  | [value] =>
    .ok { trigger := entry.sequence, identity := entry.identity, mask, expected := value }
  | registers =>
    .error (.entryRegisterCount entry.sequence entry.identity.label registers.length)

end FaultReplay.Instruction.Entry
