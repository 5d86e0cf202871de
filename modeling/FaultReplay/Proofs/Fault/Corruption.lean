import FaultReplay.Context
import FaultReplay.Proofs.Text.Reading

/-!
# What a strike does

The complete effect of a fault, said position by position and apart from the code that brings it
about: the one register, or the byte at the offset and for a multi-cell fault the byte at its
distance, is XORed with the mask and nothing else changes. A strike either has this whole effect or
is refused.
-/

namespace FaultReplay

open Numeral (decimal)

/-! ### The effect -/

/-- The instruction after the mask has flipped bits of everything it wrote. -/
def Instruction.Retirement.corrupt (retired : Retirement) (mask : UInt64) : Retirement :=
  { retired with registers := retired.registers.map (· ^^^ mask) }

/-- The cells of an access: the one at its offset and, if a distance is given, the one there. -/
def Memory.Access.IsCell (access : Access) (distance : Option UInt64) (position : Nat) : Prop :=
  position = access.identity.offset.toNat ∨
    ∃ s ∈ distance, position = access.identity.offset.toNat + s.toNat

instance (access : Memory.Access) (distance : Option UInt64) (position : Nat) :
    Decidable (access.IsCell distance position) :=
  inferInstanceAs (Decidable (_ ∨ _))

/-- The access after the mask has flipped bits of its cells. -/
def Memory.Access.corrupt (access : Access) (mask : UInt64) (distance : Option UInt64) : Access :=
  { access with
    region := access.region.mapIdx fun position byte =>
      if access.IsCell distance position then byte ^^^ mask.toUInt8 else byte }

/-- The event after the mask has flipped bits of its target. -/
def Event.corrupt : {d : Domain} → Event d → UInt64 → Option UInt64 → Event d
  | .instruction, retired, mask, _ => Instruction.Retirement.corrupt retired mask
  | .memory, access, mask, distance => Memory.Access.corrupt access mask distance

namespace Fault

variable {d : Domain}

/-- The distance to the second cell of a multi-cell fault. -/
def reach (fault : Fault d) : Option UInt64 :=
  if fault.multiCell then some fault.distance else none

/-- The event after the complete fault. -/
def corrupt (fault : Fault d) (event : Event d) : Event d :=
  Event.corrupt event fault.mask fault.reach

/-- The events that a fault can strike: the profiled value is at the target, and the target is one
register or lies with all its cells inside the declared and the actual region. -/
def Fits : {d : Domain} → Fault d → Event d → Prop
  | .instruction, fault, retired =>
    Instruction.Retirement.registers retired = [fault.expected]
  | .memory, fault, access =>
    let region := Memory.Access.region access
    let offset := (Memory.Access.identity access).offset.toNat
    let total := (Memory.Access.identity access).total.toNat
    offset < total ∧ offset < region.size ∧
      (∀ s ∈ fault.reach, s ≠ 0 ∧ offset + s.toNat < total ∧ offset + s.toNat < region.size) ∧
      fault.mask ≤ 255 ∧ (Memory.Entry.byteAt region offset).toUInt64 = fault.expected

/-- The values at the target before and after, as an outcome names them. -/
def sights : {d : Domain} → Fault d → Event d → Event d → List (String × String)
  | .instruction, _, before, after =>
    [ ("reg_val_before",
        decimal ((Instruction.Retirement.registers before).headD 0).toNat),
      ("reg_val_after",
        decimal ((Instruction.Retirement.registers after).headD 0).toNat) ]
  | .memory, fault, before, after =>
    let offset := (Memory.Access.identity before).offset.toNat
    let first (access : Memory.Access) := Memory.Entry.byteAt access.region offset
    let second (access : Memory.Access) :=
      (fault.reach.map fun s => Memory.Entry.byteAt access.region (offset + s.toNat)).getD 0
    [ ("mem_val_before", decimal (first before).toNat),
      ("mem_val_after", decimal (first after).toNat),
      ("secondary_val_before", decimal (second before).toNat),
      ("secondary_val_after", decimal (second after).toNat) ]

/-- The record of the complete fault on an event. -/
def outcome (fault : Fault d) (event : Event d) : Outcome :=
  .ofFault (fault.sights event (fault.corrupt event)) fault

end Fault

/-- The bytes of a file that holds a record and nothing else. -/
def Outcome.bytes (outcome : Outcome) : ByteArray :=
  outcome.render.toUTF8

theorem Outcome.bytes_ne_empty {outcome : Outcome} (h : outcome.fields ≠ []) :
    outcome.bytes ≠ ByteArray.empty := by
  apply Text.toUTF8_ne_empty
  intro blank
  obtain ⟨field, rest, hf⟩ := List.exists_cons_of_ne_nil h
  have chars := congrArg String.toList blank
  simp [render, hf] at chars

theorem Fault.bytes_outcome_ne_empty {d : Domain} (fault : Fault d) (event : Event d) :
    (fault.outcome event).bytes ≠ ByteArray.empty := by
  apply Outcome.bytes_ne_empty
  cases d <;> simp [outcome, Outcome.ofFault, sights]

/-! ### Positions -/

namespace Memory

variable {region : Array UInt8} {i j : Nat} {mask : UInt8}

theorem flip_eq_mapIdx (region : Array UInt8) (i : Nat) (mask : UInt8) :
    flip region i mask =
      region.mapIdx fun position byte => if position = i then byte ^^^ mask else byte := by
  apply Array.ext
  · simp [flip]
  · intro position hp hm
    by_cases same : i = position
    · simp [flip, Array.getElem_modify, same]
    · simp [flip, Array.getElem_modify, same, Ne.symm same]

theorem byteAt_flip_self (h : i < region.size) :
    Entry.byteAt (flip region i mask) i = Entry.byteAt region i ^^^ mask := by
  simp [Entry.byteAt, flip, h, Array.getElem_modify]

theorem byteAt_flip_of_ne (h : i ≠ j) :
    Entry.byteAt (flip region i mask) j = Entry.byteAt region j := by
  simp [Entry.byteAt, flip, Array.getElem?_modify, h]

/-- Flipping at two positions is one pass over the region. -/
theorem flip_flip (h : i ≠ j) :
    flip (flip region i mask) j mask =
      region.mapIdx fun position byte =>
        if position = i ∨ position = j then byte ^^^ mask else byte := by
  rw [flip_eq_mapIdx region, flip_eq_mapIdx]
  apply Array.ext
  · simp
  · intro position hp hm
    by_cases first : position = i
    · subst first
      simp [h]
    · simp [first]

/-- A distance other than 0 leads away from a position. -/
theorem ne_add_toNat {s : UInt64} (h : s ≠ 0) (i : Nat) : i ≠ i + s.toNat := by
  intro same
  exact h (UInt64.toNat_inj.1 (Nat.add_eq_left.1 same.symm))

/-- Where the second cell of a fault is, if it has one that can be struck. -/
theorem secondCell?_eq_ok_iff {sequence : UInt64} {fault : Fault .memory} {access : Access}
    {second : Option Nat} :
    secondCell? sequence fault access = .ok second ↔
      (∀ s ∈ fault.reach, s ≠ 0 ∧
        access.identity.offset.toNat + s.toNat < access.identity.total.toNat ∧
        access.identity.offset.toNat + s.toNat < access.region.size) ∧
      second = fault.reach.map fun s => access.identity.offset.toNat + s.toNat := by
  have apart : access.identity.offset.toNat + fault.distance.toNat =
      access.identity.offset.toNat ↔ fault.distance = 0 := by
    rw [Nat.add_eq_left, ← UInt64.toNat_zero, UInt64.toNat_inj]
  cases hm : fault.multiCell with
  | false => simp [secondCell?, Fault.reach, hm, eq_comm]
  | true =>
      simp only [secondCell?, Fault.reach, hm, if_true, apart, Option.mem_some_iff, forall_eq',
        Option.map_some]
      split
      · rename_i inside
        by_cases hd : fault.distance = 0
        · simp [hd]
        · simp [hd, inside, eq_comm]
      · rename_i outside
        simp only [reduceCtorEq, false_iff]
        rintro ⟨⟨-, inside⟩, -⟩
        exact outside inside

theorem Access.corrupt_none (access : Access) (mask : UInt64) :
    access.corrupt mask none =
      { access with region := flip access.region access.identity.offset.toNat mask.toUInt8 } := by
  simp [corrupt, IsCell, flip_eq_mapIdx]

theorem Access.corrupt_some (access : Access) (mask : UInt64) {s : UInt64} (h : s ≠ 0) :
    access.corrupt mask (some s) =
      { access with
        region :=
          flip (flip access.region access.identity.offset.toNat mask.toUInt8)
            (access.identity.offset.toNat + s.toNat) mask.toUInt8 } := by
  simp [corrupt, IsCell, flip_flip (ne_add_toNat h _)]

theorem fits_of_strike {sequence : UInt64} {fault : Fault .memory} {access : Access}
    {answer : Access × List (String × String)}
    (h : strike sequence fault access = .ok answer) : Fault.Fits (d := .memory) fault access := by
  simp only [strike] at h
  split at h
  · cases h
  rename_i declared
  split at h
  · cases h
  rename_i actual
  split at h
  · cases h
  rename_i second cells
  split at h
  · cases h
  rename_i narrow
  split at h
  · cases h
  rename_i same
  refine ⟨by omega, by omega, (secondCell?_eq_ok_iff.1 cells).1, UInt64.not_lt.1 narrow, ?_⟩
  simpa using same

theorem strike_of_fits {fault : Fault .memory} {access : Access}
    (h : Fault.Fits (d := .memory) fault access) (sequence : UInt64) :
    strike sequence fault access =
      .ok (access.corrupt fault.mask fault.reach,
        Fault.sights (d := .memory) fault access (access.corrupt fault.mask fault.reach)) := by
  obtain ⟨declared, actual, cells, narrow, same⟩ := h
  have second : secondCell? sequence fault access = .ok _ :=
    secondCell?_eq_ok_iff.2 ⟨cells, rfl⟩
  have start : ¬ access.identity.total.toNat < access.identity.offset.toNat + 1 := by omega
  simp only [strike, if_neg start, if_neg (Nat.not_le.2 actual), second,
    if_neg (UInt64.not_lt.2 narrow), same, ne_eq, not_true, if_false, Fault.sights]
  cases hr : fault.reach with
  | none => simp [Access.corrupt_none, byteAt_flip_self actual]
  | some s =>
      obtain ⟨nonzero, -, inside⟩ := cells s hr
      have apart := ne_add_toNat nonzero access.identity.offset.toNat
      have struck : access.identity.offset.toNat + s.toNat <
          (flip access.region access.identity.offset.toNat fault.mask.toUInt8).size := by
        simpa [flip] using inside
      simp [Access.corrupt_some _ _ nonzero, byteAt_flip_self struck, byteAt_flip_of_ne apart,
        byteAt_flip_of_ne apart.symm, byteAt_flip_self actual]

theorem strike_eq_ok_iff {sequence : UInt64} {fault : Fault .memory} {access struck : Access}
    {observed : List (String × String)} :
    strike sequence fault access = .ok (struck, observed) ↔
      Fault.Fits (d := .memory) fault access ∧
        struck = access.corrupt fault.mask fault.reach ∧
        observed = Fault.sights (d := .memory) fault access
          (access.corrupt fault.mask fault.reach) := by
  constructor
  · intro h
    have fits := fits_of_strike h
    rw [strike_of_fits fits] at h
    cases h
    exact ⟨fits, rfl, rfl⟩
  · rintro ⟨fits, rfl, rfl⟩
    exact strike_of_fits fits sequence

end Memory

theorem Instruction.strike_eq_ok_iff {sequence : UInt64} {fault : Fault .instruction}
    {retired struck : Retirement} {observed : List (String × String)} :
    strike sequence fault retired = .ok (struck, observed) ↔
      Fault.Fits (d := .instruction) fault retired ∧ struck = retired.corrupt fault.mask ∧
        observed = Fault.sights (d := .instruction) fault retired
          (retired.corrupt fault.mask) := by
  simp only [strike, Fault.Fits]
  split
  · rename_i before written
    by_cases same : before = fault.expected
    · simp [same, written, Retirement.corrupt, Fault.sights, eq_comm]
    · simp [same, written]
  · rename_i others
    simp only [reduceCtorEq, false_iff]
    rintro ⟨written, -⟩
    exact others _ written

/-- A strike succeeds on the events that fit, with the complete effect and what it saw. -/
theorem Fault.strike_eq_ok_iff {d : Domain} {sequence : UInt64} {fault : Fault d}
    {event struck : Event d} {observed : List (String × String)} :
    fault.strike sequence event = .ok (struck, observed) ↔
      fault.Fits event ∧ struck = fault.corrupt event ∧
        observed = fault.sights event (fault.corrupt event) := by
  cases d with
  | instruction => exact Instruction.strike_eq_ok_iff
  | memory => exact Memory.strike_eq_ok_iff

end FaultReplay
