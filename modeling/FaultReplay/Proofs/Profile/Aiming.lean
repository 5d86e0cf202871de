import FaultReplay.Fault.Record
import FaultReplay.Profile.Log
import FaultReplay.Proofs.Field

/-!
# Faults aimed at entries

From which entries a fault can be derived, and which one. An instruction entry has to name its
register by holding one value; a memory entry has its byte, and a second byte has to lie inside the
declared region. The fault of an entry is one that its domain can apply, so a plan never refuses it
for itself.
-/

namespace FaultReplay

variable {d : Domain} {entry : Entry d} {mask : UInt64} {secondary : Option UInt64}
  {fault other : Fault d}

/-- The distance that a fault of the domain has: a memory fault has one in any case. -/
def Domain.distance : Domain → Option UInt64 → Option UInt64
  | .instruction, _ => none
  | .memory, secondary => some (secondary.getD 0)

/-- The entries that a fault with this mask and this distance can be aimed at. Offset and distance
are added as numbers without a limit, and the sum has to be one of 64 bits. -/
def Entry.Aimable : {d : Domain} → Entry d → UInt64 → Option UInt64 → Prop
  | .instruction, entry, _, _ => (Instruction.Entry.registers entry).length = 1
  | .memory, entry, mask, secondary =>
    let offset := (Memory.Entry.identity entry).offset.toNat
    let total := (Memory.Entry.identity entry).total.toNat
    mask ≤ 255 ∧ ∀ s, secondary = some s →
      s ≠ 0 ∧ offset + s.toNat < UInt64.size ∧ offset + s.toNat < total

/-- The value of an entry's target: that of its only register, or its first byte. -/
def Entry.Held : {d : Domain} → Entry d → UInt64 → Prop
  | .instruction, entry, value => Instruction.Entry.registers entry = [value]
  | .memory, entry, value => value = (Memory.Entry.byte entry).toUInt64

/-- The fault for an entry: it strikes the entry's event if the target still holds what it held, and
has a second cell exactly if a distance is given. -/
structure Entry.Yields (entry : Entry d) (mask : UInt64) (secondary : Option UInt64)
    (fault : Fault d) : Prop where
  trigger : fault.trigger = entry.sequence
  identity : fault.identity = entry.identity
  mask : fault.mask = mask
  expected : entry.Held fault.expected
  multiCell : fault.multiCell = secondary.isSome
  secondary : fault.secondary = d.distance secondary

namespace Entry

theorem Held.unique {value same : UInt64} (h : entry.Held value) (again : entry.Held same) :
    value = same := by
  cases d with
  | instruction => exact List.singleton_inj.1 (Eq.trans (Eq.symm h) again)
  | memory => exact Eq.trans h (Eq.symm again)

theorem Yields.unique (h : entry.Yields mask secondary fault)
    (same : entry.Yields mask secondary other) : fault = other := by
  have held := h.expected.unique same.expected
  cases fault
  cases other
  rw [Fault.mk.injEq]
  exact ⟨h.trigger.trans same.trigger.symm, h.identity.trans same.identity.symm,
    h.mask.trans same.mask.symm, held, h.secondary.trans same.secondary.symm,
    h.multiCell.trans same.multiCell.symm⟩

/-- The fault for an entry that it can be aimed at is one that its domain can apply. -/
theorem Yields.valid (h : entry.Yields mask secondary fault)
    (aimable : entry.Aimable mask secondary) (cells : d = .instruction → secondary = none) :
    fault.Valid := by
  cases d with
  | instruction =>
      refine ⟨?_, h.secondary⟩
      rw [h.multiCell, cells rfl]
      rfl
  | memory =>
      obtain ⟨narrow, inside⟩ := aimable
      refine ⟨h.mask ▸ narrow, ?_, fun double => ?_⟩
      · have held : fault.expected = (Memory.Entry.byte entry).toUInt64 := h.expected
        rw [held]
        exact UInt8.toUInt64_le_255 _
      · rw [h.multiCell] at double
        obtain ⟨s, given⟩ := Option.isSome_iff_exists.1 double
        rw [Fault.distance, h.secondary, given]
        exact (inside s given).1

/-! ### Derivation -/

theorem yields_of_register {entry : Entry .instruction} {fault : Fault .instruction}
    (h : Instruction.Entry.fault entry mask = .ok fault) :
    entry.Aimable mask none ∧ entry.Yields mask none fault := by
  unfold Instruction.Entry.fault at h
  split at h
  · rename_i value only
    cases h
    exact ⟨congrArg List.length only, rfl, rfl, rfl, only, rfl, rfl⟩
  · cases h

theorem yields_of_byte {entry : Entry .memory} {fault : Fault .memory}
    (h : Memory.Entry.fault entry mask = .ok fault) :
    mask ≤ 255 ∧ entry.Yields mask none fault := by
  unfold Memory.Entry.fault at h
  split at h
  · cases h
  · rename_i narrow
    cases h
    exact ⟨UInt64.not_lt.1 narrow, rfl, rfl, rfl, rfl, rfl, rfl⟩

/-- The fault for two bytes is the one for the first of them with a distance. -/
theorem yields_of_bytes {entry : Entry .memory} {fault : Fault .memory} {s : UInt64}
    (h : Memory.Entry.doubleFault entry mask s = .ok fault) :
    entry.Aimable mask (some s) ∧ entry.Yields mask (some s) fault := by
  unfold Memory.Entry.doubleFault at h
  split at h
  · cases h
  · rename_i inside
    obtain ⟨single, derived, h⟩ := Except.exists_of_bind_eq_ok h
    cases h
    obtain ⟨narrow, yields⟩ := yields_of_byte derived
    obtain ⟨nonzero, near⟩ := not_or.1 inside
    refine ⟨⟨narrow, ?_⟩, yields.trigger, yields.identity, yields.mask, yields.expected, rfl, rfl⟩
    rintro _ ⟨rfl⟩
    have limit := (Memory.Entry.identity entry).total.toNat_lt
    exact ⟨nonzero, Nat.lt_trans (Nat.not_le.1 near) limit, Nat.not_le.1 near⟩

/-- What is derived from an entry is the fault that it yields. -/
theorem yields_of_fault (cells : d = .instruction → secondary = none)
    (h : entry.fault mask secondary = .ok fault) :
    entry.Aimable mask secondary ∧ entry.Yields mask secondary fault := by
  cases d with
  | instruction =>
      obtain rfl := cells rfl
      exact yields_of_register h
  | memory =>
      cases secondary with
      | none =>
          obtain ⟨narrow, yields⟩ := yields_of_byte h
          exact ⟨⟨narrow, fun s none => by cases none⟩, yields⟩
      | some s => exact yields_of_bytes h

/-- A fault can be derived from every entry that it can be aimed at. -/
theorem Aimable.exists_fault (h : entry.Aimable mask secondary) :
    ∃ fault, entry.fault mask secondary = .ok fault := by
  cases d with
  | instruction =>
      obtain ⟨value, only⟩ := List.length_eq_one_iff.1 h
      simp only [Entry.fault, Instruction.Entry.fault, only]
      exact ⟨_, rfl⟩
  | memory =>
      obtain ⟨narrow, inside⟩ := h
      have alone : ¬ 255 < mask := UInt64.not_lt.2 narrow
      cases secondary with
      | none =>
          simp only [Entry.fault, Memory.Entry.fault, if_neg alone]
          exact ⟨_, rfl⟩
      | some s =>
          obtain ⟨nonzero, -, near⟩ := inside s rfl
          simp only [Entry.fault, Memory.Entry.doubleFault, Memory.Entry.fault, if_neg alone,
            if_neg (not_or.2 ⟨nonzero, Nat.not_le.2 near⟩)]
          exact ⟨_, rfl⟩

/-- A fault is derived from an entry exactly if it can be aimed there, and is the one that the entry
yields. -/
theorem fault_eq_ok_iff (cells : d = .instruction → secondary = none) :
    entry.fault mask secondary = .ok fault ↔
      entry.Aimable mask secondary ∧ entry.Yields mask secondary fault := by
  constructor
  · exact yields_of_fault cells
  · rintro ⟨aimable, yields⟩
    obtain ⟨derived, h⟩ := aimable.exists_fault
    rw [h, yields.unique (yields_of_fault cells h).2]

end Entry

end FaultReplay
