import FaultReplay.Plan.Basic
import FaultReplay.Profile.Log

/-!
# Plans from profiles

The planner's side: look events up in a profile log and aim a fault at each.
-/

namespace FaultReplay.Plan

/-- The faults that strike the events with these numbers, as the log has them. The first event that
cannot be struck ends the derivation. -/
def deriveFaults (d : Domain) (log : String) (text : Option String) (events : List UInt64)
    (mask : UInt64) (secondary : Option UInt64) : Except Error (List (Fault d)) :=
  events.mapM fun sequence => do
    let entry ← Profile.findIn d log text sequence
    entry.fault mask secondary

/-- The plan that strikes the events with these numbers. -/
def derive (d : Domain) (log : String) (text : Option String) (events : List UInt64)
    (mask : UInt64) (secondary : Option UInt64) : Except Error (Plan d) := do
  let faults ← deriveFaults d log text events mask secondary
  ofFaults faults

end FaultReplay.Plan
