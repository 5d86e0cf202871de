import FaultReplay.Proofs.Fault.Attestation

/-!
# Bounds

Which accesses a memory fault can be carried out on as far as its cells are concerned: these lie
inside the declared and the actual region, and their positions are numbers of 64 bits. A strike
checks this first and the value at the first cell only after it, and what it does then touches the
region at no position outside.
-/

namespace FaultReplay.Memory

open Numeral (decimal)

variable {fault : Fault .memory} {access : Access} {sequence : UInt64}

/-! ### Cells inside the region -/

/-- An access on which all cells of a fault lie inside the declared and the actual region. -/
structure Within (fault : Fault .memory) (access : Access) : Prop where
  /-- The end of the first cell is a number of 64 bits. -/
  counted : access.identity.offset.toNat + 1 < UInt64.size
  declared : access.identity.offset.toNat + 1 ≤ access.identity.total.toNat
  actual : access.identity.offset.toNat < access.region.size
  second : fault.multiCell = true →
    access.identity.offset.toNat + fault.distance.toNat < UInt64.size ∧
    access.identity.offset.toNat + fault.distance.toNat < access.identity.total.toNat ∧
    access.identity.offset.toNat + fault.distance.toNat < access.region.size

theorem forall_reach {P : UInt64 → Prop} :
    (∀ s ∈ fault.reach, P s) ↔ (fault.multiCell = true → P fault.distance) := by
  unfold Fault.reach
  split
  · rename_i double
    simp [double]
  · rename_i single
    simp [single]

/-- The declared size is a number of 64 bits, so every position below it is one too. -/
theorem within_iff : Within fault access ↔
    access.identity.offset.toNat < access.identity.total.toNat ∧
      access.identity.offset.toNat < access.region.size ∧
      (fault.multiCell = true →
        access.identity.offset.toNat + fault.distance.toNat < access.identity.total.toNat ∧
          access.identity.offset.toNat + fault.distance.toNat < access.region.size) := by
  have size : access.identity.total.toNat < UInt64.size := access.identity.total.toNat_lt
  constructor
  · intro inside
    exact ⟨inside.declared, inside.actual, fun double => (inside.second double).2⟩
  · rintro ⟨declared, actual, second⟩
    refine ⟨Nat.lt_of_le_of_lt declared size, declared, actual, fun double => ?_⟩
    exact ⟨Nat.lt_trans (second double).1 size, second double⟩

/-- All cells of a valid fault are there, and the second is not the first. -/
theorem Within.cells (inside : Within fault access) (valid : fault.Valid) :
    ∀ s ∈ fault.reach, s ≠ 0 ∧
      access.identity.offset.toNat + s.toNat < access.identity.total.toNat ∧
      access.identity.offset.toNat + s.toNat < access.region.size :=
  forall_reach.2 fun double => ⟨valid.2.2 double, (inside.second double).2⟩

/-- A valid fault can be carried out on the accesses that have its cells and the profiled byte. -/
theorem fits_iff (valid : fault.Valid) :
    Fault.Fits (d := .memory) fault access ↔ Within fault access ∧
      (Entry.byteAt access.region access.identity.offset.toNat).toUInt64 = fault.expected := by
  constructor
  · rintro ⟨declared, actual, cells, -, held⟩
    have second (double : fault.multiCell = true) := (forall_reach.1 cells double).2
    exact ⟨within_iff.2 ⟨declared, actual, second⟩, held⟩
  · rintro ⟨inside, held⟩
    exact ⟨inside.declared, inside.actual, inside.cells valid, valid.1, held⟩

/-- A strike outside the bounds is refused for them, whatever the region holds. -/
theorem strike_of_not_within (sequence : UInt64) (outside : ¬ Within fault access) :
    ∃ e, strike sequence fault access = .error e ∧ e.kind = .bounds := by
  simp only [strike]
  split
  · exact ⟨_, rfl, rfl⟩
  rename_i declared
  split
  · exact ⟨_, rfl, rfl⟩
  rename_i actual
  have beyond (double : fault.multiCell = true → _ ∧ _) : False :=
    outside (within_iff.2 ⟨by omega, by omega, double⟩)
  -- The first cell is inside, so there is a second one and it is not.
  obtain ⟨double, far⟩ := Classical.not_imp.1 beyond
  simp only [secondCell?, double, if_true, if_neg far]
  exact ⟨_, rfl, rfl⟩

/-- A strike inside the bounds is refused for a byte other than the profiled one. -/
theorem strike_of_differs (valid : fault.Valid) (sequence : UInt64)
    (inside : Within fault access)
    (other : (Entry.byteAt access.region access.identity.offset.toNat).toUInt64 ≠
      fault.expected) :
    ∃ e, strike sequence fault access = .error e ∧ e.kind = .consistency := by
  have start := Nat.not_lt.2 inside.declared
  have found : secondCell? sequence fault access = .ok _ :=
    secondCell?_eq_ok_iff.2 ⟨inside.cells valid, rfl⟩
  simp only [strike, if_neg start, if_neg (Nat.not_le.2 inside.actual), found,
    if_neg (UInt64.not_lt.2 valid.1), if_pos other]
  exact ⟨_, rfl, rfl⟩

/-! ### Checked access -/

/-- Replaces the byte at a position, if the region has one there. -/
def write? (region : Array UInt8) (position : Nat) (byte : UInt8) : Option (Array UInt8) :=
  if position < region.size then some (region.setIfInBounds position byte) else none

/-- A strike that reads and writes the region with a check, and comes to nothing where a position is
outside. -/
def strike? (sequence : UInt64) (fault : Fault .memory) (access : Access) :
    Option (Except Error (Access × List (String × String))) :=
  let offset := access.identity.offset
  let total := access.identity.total
  if total.toNat < offset.toNat + 1 then some (.error (.pastDeclaredEnd offset total))
  else if access.region.size ≤ offset.toNat then
    some (.error (.outsideRegion offset access.region.size))
  else
    match secondCell? sequence fault access with
    | .error e => some (.error e)
    | .ok second =>
      if 255 < fault.mask then some (.error (.wideMask fault.mask))
      else do
        let mask := fault.mask.toUInt8
        let before ← access.region[offset.toNat]?
        if before.toUInt64 ≠ fault.expected then
          some (.error (.byteDiffers fault.expected before sequence))
        else
          let struck ← write? access.region offset.toNat (before ^^^ mask)
          let after ← struck[offset.toNat]?
          let (region, secondBefore, secondAfter) ←
            match second with
            | none => some (struck, 0, 0)
            | some cell => do
              let cellBefore ← struck[cell]?
              let region ← write? struck cell (cellBefore ^^^ mask)
              let cellAfter ← region[cell]?
              some (region, cellBefore, cellAfter)
          some <| .ok
            ({ access with region },
              [ ("mem_val_before", decimal before.toNat),
                ("mem_val_after", decimal after.toNat),
                ("secondary_val_before", decimal secondBefore.toNat),
                ("secondary_val_after", decimal secondAfter.toNat) ])

section Checked

variable {region : Array UInt8} {position : Nat}

theorem write?_eq_flip (mask : UInt8) (inside : position < region.size) :
    write? region position (Entry.byteAt region position ^^^ mask) =
      some (flip region position mask) := by
  rw [write?, if_pos inside, Option.some.injEq]
  apply Array.ext_getElem?
  intro i
  by_cases same : position = i
  · subst same
    simp [flip, Entry.byteAt, Array.getElem_modify, inside]
  · simp [flip, Array.getElem?_modify, same]

theorem size_flip (region : Array UInt8) (position : Nat) (mask : UInt8) :
    (flip region position mask).size = region.size := by
  simp [flip]

theorem getElem?_flip_self (mask : UInt8) (inside : position < region.size) :
    (flip region position mask)[position]? = some (Entry.byteAt region position ^^^ mask) := by
  rw [getElem?_eq_byteAt (by rwa [size_flip]), byteAt_flip_self inside]

/-- The second cell of a strike lies inside the region. -/
theorem lt_of_secondCell? {cell : Nat}
    (found : secondCell? sequence fault access = .ok (some cell)) : cell < access.region.size := by
  obtain ⟨cells, second⟩ := secondCell?_eq_ok_iff.1 found
  obtain ⟨s, reached, rfl⟩ := Option.map_eq_some_iff.1 second.symm
  exact (cells s reached).2.2

/-- Every position that a strike reads or writes lies inside the region: with checks it does the
same, whatever the event, the fault and the access are. -/
theorem strike?_eq_some (sequence : UInt64) (fault : Fault .memory) (access : Access) :
    strike? sequence fault access = some (strike sequence fault access) := by
  simp only [strike?, strike]
  split
  · rfl
  split
  · rfl
  rename_i actual
  have inside : access.identity.offset.toNat < access.region.size := Nat.not_le.1 actual
  cases found : secondCell? sequence fault access with
  | error e => rfl
  | ok second =>
      dsimp only
      split
      · rfl
      rw [getElem?_eq_byteAt inside]
      dsimp only [Option.bind_eq_bind, Option.bind_some]
      split
      · rfl
      rw [write?_eq_flip _ inside]
      dsimp only [Option.bind_some]
      rw [getElem?_flip_self _ inside]
      cases second with
      | none => rfl
      | some cell =>
          have cellInside : cell <
              (flip access.region access.identity.offset.toNat fault.mask.toUInt8).size := by
            rw [size_flip]
            exact lt_of_secondCell? found
          dsimp only [Option.bind_some]
          rw [getElem?_eq_byteAt cellInside]
          dsimp only [Option.bind_some]
          rw [write?_eq_flip _ cellInside]
          dsimp only [Option.bind_some]
          rw [getElem?_flip_self _ cellInside]
          rfl

end Checked

end FaultReplay.Memory
