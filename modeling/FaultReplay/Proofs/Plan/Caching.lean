import FaultReplay.Plan.Cell
import Mathlib.Data.List.Induction

/-!
# A plan is loaded once

A cell is asked for its plan again and again while files appear, change and vanish. It is empty as
long as no file that it was sent to held a plan, and from the first one on it has the plan of that
file.
-/

namespace FaultReplay

variable {d : Domain}

/-- What can happen to a cell or to the files that it loads from. -/
inductive PlanCell.Use where
  /-- The cell is asked for the plan it has. -/
  | get
  /-- The cell is asked for a plan and may load it. -/
  | fetch (path : String)
  /-- The disk is changed from outside. -/
  | outside (change : Disk → Disk)

/-- A cell that has a plan for good: it is the answer to every request, whatever the path and
whatever is on the disk. -/
structure PlanCell.Settled (cell : PlanCell d) (plan : Plan d) : Prop where
  get : cell.plan? = some plan
  fetch : ∀ disk path, (cell.fetch disk path).1 = .ok plan

/-- A cell together with the disk that it loads from. -/
structure PlanStore (d : Domain) where
  cell : PlanCell d
  disk : Disk

namespace PlanCell

variable {cell : PlanCell d}

theorem settled_of_plan? {plan : Plan d} (held : cell.plan? = some plan) : cell.Settled plan where
  get := held
  fetch := fun disk path => by rw [fetch_of_some held]

/-- An empty cell answers with what is in the file. -/
theorem fetch_of_none (empty : cell.plan? = none) (disk : Disk) (path : String) :
    (cell.fetch disk path).1 = Plan.load d disk path := by
  simp only [fetch, empty]
  split
  · rename_i refused
    exact refused.symm
  · rename_i loaded
    exact loaded.symm

end PlanCell

namespace PlanStore

variable {store : PlanStore d} {uses : List PlanCell.Use} {plan : Plan d}

/-- The answer to a request that may load. -/
def answer (store : PlanStore d) (path : String) : Except Error (Plan d) :=
  (store.cell.fetch store.disk path).1

/-- The store after a use. -/
def use (store : PlanStore d) : PlanCell.Use → PlanStore d
  | .get => store
  | .fetch path => { store with cell := (store.cell.fetch store.disk path).2 }
  | .outside change => { store with disk := change store.disk }

/-- The store after several uses. -/
def after (store : PlanStore d) (uses : List PlanCell.Use) : PlanStore d :=
  uses.foldl use store

@[simp] theorem after_nil (store : PlanStore d) : store.after [] = store := rfl

@[simp] theorem after_cons (store : PlanStore d) (next : PlanCell.Use)
    (uses : List PlanCell.Use) : store.after (next :: uses) = (store.use next).after uses := rfl

@[simp] theorem after_append (store : PlanStore d) (uses more : List PlanCell.Use) :
    store.after (uses ++ more) = (store.after uses).after more := by
  simp [after]

/-- No file that is to be loaded in these uses holds a plan at that moment. -/
def Fruitless (store : PlanStore d) (uses : List PlanCell.Use) : Prop :=
  ∀ before path, before ++ [.fetch path] <+: uses →
    ∃ e, Plan.load d (store.after before).disk path = .error e

theorem Fruitless.of_prefix {before : List PlanCell.Use} (h : store.Fruitless uses)
    (part : before <+: uses) : store.Fruitless before :=
  fun earlier path sooner => h earlier path (sooner.trans part)

theorem plan?_use (held : store.cell.plan? = some plan) (next : PlanCell.Use) :
    (store.use next).cell.plan? = some plan := by
  cases next with
  | get => exact held
  | fetch path =>
      simp only [use, PlanCell.fetch_of_some held]
      exact held
  | outside change => exact held

/-- A plan that is in the cell stays there. -/
theorem settled_after (held : store.cell.plan? = some plan) (uses : List PlanCell.Use) :
    (store.after uses).cell.Settled plan := by
  induction uses generalizing store with
  | nil => exact PlanCell.settled_of_plan? held
  | cons next uses ih => exact ih (plan?_use held next)

/-- A cell stays empty until a load succeeds. -/
theorem plan?_after_of_fruitless (empty : store.cell.plan? = none)
    (fruitless : store.Fruitless uses) : (store.after uses).cell.plan? = none := by
  -- By the last use: what happened before it was fruitless too.
  induction uses using List.reverseRecOn with
  | nil => exact empty
  | append_singleton uses last ih =>
      have still := ih (fruitless.of_prefix (List.prefix_append uses [last]))
      rw [after_append, after_cons, after_nil]
      cases last with
      | get => exact still
      | fetch path =>
          obtain ⟨e, refused⟩ := fruitless uses path List.prefix_rfl
          apply PlanCell.plan?_fetch_of_error (e := e)
          rw [PlanCell.fetch_of_none still, refused]
      | outside change => exact still

/-- The first load that succeeds fills the cell for good. -/
theorem settled_of_load {path : String} (empty : store.cell.plan? = none)
    (loaded : Plan.load d store.disk path = .ok plan) (more : List PlanCell.Use) :
    (store.after (.fetch path :: more)).cell.Settled plan := by
  have filled : (store.use (.fetch path)).cell.plan? = some plan := by
    apply PlanCell.plan?_fetch_of_ok
    rw [PlanCell.fetch_of_none empty, loaded]
  exact settled_after filled more

end PlanStore

end FaultReplay
