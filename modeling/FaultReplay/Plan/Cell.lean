import FaultReplay.Plan.Text

/-!
# Plans on demand

A cell holds the plan of a run once it has been loaded. The first load that succeeds fills it; a
failed load leaves it empty, and the next request tries again.
-/

namespace FaultReplay

/-- A place for the plan of a run. -/
structure PlanCell (d : Domain) where
  plan? : Option (Plan d) := none
  deriving DecidableEq

namespace PlanCell

variable {d : Domain}

/-- The plan of the cell, read from a file if there is none yet, and the cell afterwards. -/
def fetch (cell : PlanCell d) (disk : Disk) (path : String) :
    Except Error (Plan d) × PlanCell d :=
  match cell.plan? with
  | some plan => (.ok plan, cell)
  | none =>
    match Plan.load d disk path with
    | .error e => (.error e, cell)
    | .ok plan => (.ok plan, ⟨some plan⟩)

theorem fetch_of_some {cell : PlanCell d} {plan : Plan d} (h : cell.plan? = some plan)
    (disk : Disk) (path : String) : cell.fetch disk path = (.ok plan, cell) := by
  simp [fetch, h]

/-- A plan that was fetched stays in the cell. -/
theorem plan?_fetch_of_ok {cell : PlanCell d} {disk : Disk} {path : String} {plan : Plan d}
    (h : (cell.fetch disk path).1 = .ok plan) :
    (cell.fetch disk path).2.plan? = some plan := by
  unfold fetch at h ⊢
  split at h
  · cases h
    simp_all
  · split at h
    · cases h
    · cases h
      simp_all

/-- A failed request leaves the cell empty. -/
theorem plan?_fetch_of_error {cell : PlanCell d} {disk : Disk} {path : String} {e : Error}
    (h : (cell.fetch disk path).1 = .error e) :
    (cell.fetch disk path).2.plan? = none := by
  unfold fetch at h ⊢
  split at h
  · cases h
  · split at h
    · simp_all
    · cases h

end PlanCell

end FaultReplay
