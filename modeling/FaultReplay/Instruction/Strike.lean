import FaultReplay.Fault.Basic

/-!
# Striking an instruction

A fault flips bits of the only register that its instruction wrote, if that register still holds the
value it had when the run was profiled.
-/

namespace FaultReplay.Instruction

open Numeral (decimal)

/-- The instruction after a fault struck it, with the values seen at the register. -/
def strike (sequence : UInt64) (fault : Fault .instruction) (retired : Retirement) :
    Except Error (Retirement × List (String × String)) :=
  match retired.registers with
  | [before] =>
    if before ≠ fault.expected then
      .error (.registerDiffers sequence fault.expected before)
    else
      let after := before ^^^ fault.mask
      .ok
        ({ retired with registers := [after] },
          [ ("reg_val_before", decimal before.toNat), ("reg_val_after", decimal after.toNat) ])
  | registers => .error (.registerCount retired.label registers.length sequence)

end FaultReplay.Instruction
