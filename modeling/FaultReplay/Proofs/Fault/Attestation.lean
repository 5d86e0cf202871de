import FaultReplay.Proofs.Fault.Corruption

/-!
# What a record says

The record of a fault that was applied names the values at its cells before and after, and repeats
the fault. What it says is true of the event before and after the fault, cell by cell.
-/

namespace FaultReplay

open Numeral (decimal)

/-- The record of a fault on an instruction: the one register held the value that was profiled and
is left with its bits in the mask flipped. -/
def Instruction.Attests (fault : Fault .instruction) (retired struck : Retirement)
    (outcome : Outcome) : Prop :=
  ∃ before after : UInt64,
    retired.registers = [before] ∧ struck.registers = [after] ∧
    before = fault.expected ∧ after = before ^^^ fault.mask ∧
    outcome.fields =
      [ ("reg_val_before", decimal before.toNat), ("reg_val_after", decimal after.toNat),
        ("trigger_iteration", decimal fault.trigger.toNat),
        ("corruption_mask", decimal fault.mask.toNat),
        ("expected_prior_value", decimal fault.expected.toNat),
        ("core_id", decimal fault.identity.core.toNat), ("label", fault.identity.label) ]

/-- The record of a fault on an access: the byte at the offset held the profiled value and is left
with its bits in the mask flipped, and so is the second cell, which is two zeros in the record if
there is none. -/
def Memory.Attests (fault : Fault .memory) (access struck : Access) (outcome : Outcome) : Prop :=
  let offset := access.identity.offset.toNat
  let cell := offset + fault.distance.toNat
  ∃ before after second secondAfter : UInt8,
    access.region[offset]? = some before ∧ struck.region[offset]? = some after ∧
    before.toUInt64 = fault.expected ∧ after.toUInt64 = before.toUInt64 ^^^ fault.mask ∧
    (fault.multiCell = true →
      access.region[cell]? = some second ∧ struck.region[cell]? = some secondAfter ∧
      secondAfter.toUInt64 = second.toUInt64 ^^^ fault.mask) ∧
    (fault.multiCell = false → second = 0 ∧ secondAfter = 0) ∧
    outcome.fields =
      [ ("mem_val_before", decimal before.toNat), ("mem_val_after", decimal after.toNat),
        ("secondary_val_before", decimal second.toNat),
        ("secondary_val_after", decimal secondAfter.toNat),
        ("trigger_iteration", decimal fault.trigger.toNat),
        ("corruption_mask", decimal fault.mask.toNat),
        ("expected_prior_value", decimal fault.expected.toNat),
        ("offset", decimal fault.identity.offset.toNat),
        ("access_size", decimal fault.identity.access.toNat),
        ("total_size", decimal fault.identity.total.toNat),
        ("multi_cell", if fault.multiCell then "1" else "0"),
        ("secondary_offset", decimal (fault.secondary.getD 0).toNat) ]

/-- The record of a fault on an event tells what the event was and what it became. -/
def Fault.Attests : {d : Domain} → Fault d → Event d → Event d → Outcome → Prop
  | .instruction, fault, event, struck, outcome => Instruction.Attests fault event struck outcome
  | .memory, fault, event, struck, outcome => Memory.Attests fault event struck outcome

namespace Memory

variable {access : Access} {distance : Option UInt64} {mask : UInt64} {position : Nat}

theorem getElem?_eq_byteAt {region : Array UInt8} (h : position < region.size) :
    region[position]? = some (Entry.byteAt region position) := by
  simp [Entry.byteAt, h]

/-- At its cells an access is left with the bits in the mask flipped. -/
theorem byteAt_corrupt (inside : position < access.region.size)
    (cell : access.IsCell distance position) :
    Entry.byteAt (access.corrupt mask distance).region position =
      Entry.byteAt access.region position ^^^ mask.toUInt8 := by
  simp [Entry.byteAt, Access.corrupt, inside, cell]

theorem size_corrupt (access : Access) (mask : UInt64) (distance : Option UInt64) :
    (access.corrupt mask distance).region.size = access.region.size := by
  simp [Access.corrupt]

/-- Flipping bits of a byte is flipping the same bits of it as a word. -/
theorem toUInt64_xor_toUInt8 (byte : UInt8) (narrow : mask ≤ 255) :
    (byte ^^^ mask.toUInt8).toUInt64 = byte.toUInt64 ^^^ mask := by
  have small : mask < 256 := UInt64.lt_of_le_of_lt narrow (by decide)
  rw [UInt8.toUInt64_xor, UInt64.toUInt64_toUInt8, UInt64.mod_eq_of_lt small]

theorem attests_outcome {fault : Fault .memory} {access : Access}
    (fits : Fault.Fits (d := .memory) fault access) :
    Attests fault access (access.corrupt fault.mask fault.reach)
      (Fault.outcome (d := .memory) fault access) := by
  obtain ⟨-, inside, cells, narrow, held⟩ := fits
  let struck := access.corrupt fault.mask fault.reach
  let offset := access.identity.offset.toNat
  have first : Entry.byteAt struck.region offset =
      Entry.byteAt access.region offset ^^^ fault.mask.toUInt8 :=
    byteAt_corrupt inside (Or.inl rfl)
  have insideToo : offset < struck.region.size := by rwa [size_corrupt]
  have flipped : (Entry.byteAt struck.region offset).toUInt64 =
      (Entry.byteAt access.region offset).toUInt64 ^^^ fault.mask := by
    rw [first, toUInt64_xor_toUInt8 _ narrow]
  cases multi : fault.multiCell with
  | false =>
      have alone : fault.reach = none := by simp [Fault.reach, multi]
      refine ⟨_, _, 0, 0, getElem?_eq_byteAt inside, getElem?_eq_byteAt insideToo, held, flipped,
        ?_, fun _ => ⟨rfl, rfl⟩, ?_⟩
      · intro on
        cases multi.symm.trans on
      · simp [Fault.outcome, Outcome.ofFault, Fault.sights, Fault.echo, faultEcho, flagText, alone,
          multi, Fault.corrupt, Event.corrupt, Fault.distance]
  | true =>
      have reach : fault.reach = some fault.distance := by simp [Fault.reach, multi]
      let cell := offset + fault.distance.toNat
      obtain ⟨-, -, cellInside⟩ := cells fault.distance reach
      have isCell : access.IsCell fault.reach cell := Or.inr ⟨fault.distance, reach, rfl⟩
      have second : Entry.byteAt struck.region cell =
          Entry.byteAt access.region cell ^^^ fault.mask.toUInt8 :=
        byteAt_corrupt cellInside isCell
      have cellInsideToo : cell < struck.region.size := by rwa [size_corrupt]
      refine ⟨_, _, _, _, getElem?_eq_byteAt inside, getElem?_eq_byteAt insideToo, held, flipped,
        fun _ => ⟨getElem?_eq_byteAt cellInside, getElem?_eq_byteAt cellInsideToo, ?_⟩, ?_, ?_⟩
      · rw [second, toUInt64_xor_toUInt8 _ narrow]
      · intro off
        cases multi.symm.trans off
      · simp [Fault.outcome, Outcome.ofFault, Fault.sights, Fault.echo, faultEcho, flagText, reach,
          multi, Fault.corrupt, Event.corrupt, Fault.distance]

end Memory

theorem Instruction.attests_outcome {fault : Fault .instruction} {retired : Retirement}
    (fits : Fault.Fits (d := .instruction) fault retired) :
    Attests fault retired (retired.corrupt fault.mask)
      (Fault.outcome (d := .instruction) fault retired) := by
  have written : retired.registers = [fault.expected] := fits
  refine ⟨fault.expected, fault.expected ^^^ fault.mask, written, ?_, rfl, rfl, ?_⟩
  · simp [Retirement.corrupt, written]
  · simp [Fault.outcome, Outcome.ofFault, Fault.sights, Fault.echo, faultEcho, Fault.corrupt,
      Event.corrupt, Retirement.corrupt, written]

/-- What the record of a fault says is true of the event that it fits. -/
theorem Fault.attests_outcome {d : Domain} {fault : Fault d} {event : Event d}
    (fits : fault.Fits event) : fault.Attests event (fault.corrupt event) (fault.outcome event) := by
  cases d with
  | instruction => exact Instruction.attests_outcome fits
  | memory => exact Memory.attests_outcome fits

end FaultReplay
