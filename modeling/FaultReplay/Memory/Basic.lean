/-!
# Memory accesses

What a simulator reports when memory is read or written, by what a fault recognises it, and what the
profile log keeps of it.
-/

namespace FaultReplay.Memory

/-- By what a fault recognises an access. -/
structure Identity where
  /-- Where in its region the access begins. -/
  offset : UInt64
  /-- The size of the access in bytes. -/
  access : UInt64
  /-- The declared size of the region in bytes. -/
  total : UInt64
  deriving DecidableEq, Repr

/-- An access together with the whole region it falls into. -/
structure Access where
  region : Array UInt8
  identity : Identity
  deriving DecidableEq, Repr

/-- One entry of a memory profile log. -/
structure Entry where
  sequence : UInt64
  /-- The byte at the offset of the access, 0 outside the region. -/
  byte : UInt8
  /-- The byte after it, 0 outside the region. -/
  next : UInt8
  identity : Identity
  deriving DecidableEq, Repr

end FaultReplay.Memory
