import FaultReplay.Fault.Basic
import FaultReplay.Field
import FaultReplay.Profile.Line

/-!
# Entries of a memory log

An entry is written as sequence number, the byte at the offset and the one after it, offset, access
size and total size.
-/

namespace FaultReplay.Memory.Entry

open Numeral (decimal)

/-- The byte at a position of a region, 0 outside of it. -/
def byteAt (region : Array UInt8) (position : Nat) : UInt8 :=
  region[position]?.getD 0

/-- The entry of an event. The position after the last one of 64 bits is outside every region. -/
def observe (sequence : UInt64) (access : Access) : Entry where
  sequence
  byte := byteAt access.region access.identity.offset.toNat
  next :=
    if access.identity.offset.toNat + 1 < UInt64.size then
      byteAt access.region (access.identity.offset.toNat + 1)
    else 0
  identity := access.identity

/-- The line of an entry. -/
def render (entry : Entry) : String :=
  Profile.line
    [ decimal entry.sequence.toNat, decimal entry.byte.toNat, decimal entry.next.toNat,
      decimal entry.identity.offset.toNat, decimal entry.identity.access.toNat,
      decimal entry.identity.total.toNat ]

/-- The entry on a line. -/
def parse (line : String) : Except Error Entry :=
  match Profile.fields line with
  | [sequence, byte, next, offset, access, total] => do
    let sequence ← Field.number "counter" sequence
    let byte ← Field.byte "byte" byte
    let next ← Field.byte "byte" next
    let offset ← Field.number "offset" offset
    let access ← Field.number "access size" access
    let total ← Field.number "total size" total
    return { sequence, byte, next, identity := ⟨offset, access, total⟩ }
  | _ => .error (.malformedMemoryLine line)

/-- The fault that flips bits of the byte at the offset of an entry's event. -/
def fault (entry : Entry) (mask : UInt64) : Except Error (Fault .memory) :=
  if 255 < mask then .error (.wideMask mask)
  else
    .ok
      { trigger := entry.sequence, identity := entry.identity, mask,
        expected := entry.byte.toUInt64, secondary := some 0 }

/-- The fault that also flips bits of the byte at a distance after the first. That byte has to lie
inside the declared region. -/
def doubleFault (entry : Entry) (mask secondary : UInt64) : Except Error (Fault .memory) :=
  if secondary = 0 ∨
      entry.identity.total.toNat ≤ entry.identity.offset.toNat + secondary.toNat then
    .error (.secondaryOutsideEntry secondary entry.identity.offset entry.identity.total)
  else do
    let single ← entry.fault mask
    return { single with secondary := some secondary, multiCell := true }

end FaultReplay.Memory.Entry
