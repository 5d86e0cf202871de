import FaultReplay.Memory.Entry

/-!
# Striking an access

A fault flips bits of the byte at its access's offset, and those of a second byte if it is
multi-cell. Every check comes before the first flip, so a strike that fails changes nothing.
-/

namespace FaultReplay.Memory

open Numeral (decimal)

/-- The second cell of a fault, if it has one. It must lie in the declared and in the actual region
and differ from the first. -/
def secondCell? (sequence : UInt64) (fault : Fault .memory) (access : Access) :
    Except Error (Option Nat) :=
  let offset := access.identity.offset
  let total := access.identity.total
  if fault.multiCell then
    let cell := offset.toNat + fault.distance.toNat
    if cell < total.toNat ∧ cell < access.region.size then
      if cell = offset.toNat then .error (.primaryTwice sequence) else .ok (some cell)
    else .error (.secondaryOutsideRegion offset fault.distance total)
  else .ok none

/-- The byte at a position after its bits in the mask are flipped, in the region. -/
def flip (region : Array UInt8) (position : Nat) (mask : UInt8) : Array UInt8 :=
  region.modify position fun byte => byte ^^^ mask

/-- The access after a fault struck it, with the values seen at its cells. -/
def strike (sequence : UInt64) (fault : Fault .memory) (access : Access) :
    Except Error (Access × List (String × String)) :=
  let offset := access.identity.offset
  let total := access.identity.total
  if total.toNat < offset.toNat + 1 then .error (.pastDeclaredEnd offset total)
  else if access.region.size ≤ offset.toNat then
    .error (.outsideRegion offset access.region.size)
  else
    match secondCell? sequence fault access with
    | .error e => .error e
    | .ok second =>
      if 255 < fault.mask then .error (.wideMask fault.mask)
      else
        let mask := fault.mask.toUInt8
        let before := Entry.byteAt access.region offset.toNat
        if before.toUInt64 ≠ fault.expected then
          .error (.byteDiffers fault.expected before sequence)
        else
          let struck := flip access.region offset.toNat mask
          let (region, secondBefore, secondAfter) :=
            match second with
            | none => (struck, 0, 0)
            | some cell =>
              let cellBefore := Entry.byteAt struck cell
              (flip struck cell mask, cellBefore, cellBefore ^^^ mask)
          .ok
            ({ access with region },
              [ ("mem_val_before", decimal before.toNat),
                ("mem_val_after", decimal (before ^^^ mask).toNat),
                ("secondary_val_before", decimal secondBefore.toNat),
                ("secondary_val_after", decimal secondAfter.toNat) ])

end FaultReplay.Memory
