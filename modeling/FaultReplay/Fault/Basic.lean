import FaultReplay.Domain.Family

/-!
# Faults

A fault is planned corruption: the event it strikes, told by number and identity, and the bits it
flips there.
-/

namespace FaultReplay

/-- A planned corruption of one event. -/
structure Fault (d : Domain) where
  /-- The number of the event to corrupt. -/
  trigger : UInt64
  /-- What that event must look like. -/
  identity : Identity d
  /-- The bits to flip in the target. -/
  mask : UInt64
  /-- The value of the target when the run was profiled. -/
  expected : UInt64
  /-- The distance from the first to the second corrupted cell. -/
  secondary : Option UInt64 := none
  /-- Whether the second cell is corrupted as well. -/
  multiCell : Bool := false
  deriving DecidableEq

namespace Fault

variable {d : Domain}

/-- The event a fault strikes. No two faults of a plan have the same. -/
def target (fault : Fault d) : UInt64 × Identity d :=
  (fault.trigger, fault.identity)

/-- The distance of the second cell, 0 where none is given. -/
def distance (fault : Fault d) : UInt64 :=
  fault.secondary.getD 0

end Fault

end FaultReplay
