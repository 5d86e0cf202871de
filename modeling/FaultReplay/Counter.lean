/-!
# Event counters

The number of valid events a domain has seen. Counting an event issues its sequence number, which is
the count afterwards, so the first event has number 1.
-/

namespace FaultReplay

/-- The number of events counted so far, which is also the last sequence number issued. -/
structure Counter where
  current : UInt64 := 0
  deriving DecidableEq, Repr

/-- Counts one event. -/
def Counter.advance (counter : Counter) : Counter :=
  ⟨counter.current + 1⟩

end FaultReplay
