import FaultReplay.Proofs.Context.Serving
import FaultReplay.Proofs.Plan.Refusals

/-!
# Where a context gets its plan

A context that has no plan tries to load one for every event: it takes a path for outcomes, a path
for the plan and a file there that holds one. The plan of the first attempt that succeeds stays.
-/

namespace FaultReplay

variable {d : Domain}

/-- The attempt to load the plan that the settings name. -/
def Settings.loadPlan (settings : Settings) (d : Domain) (disk : Disk) :
    Except Error (Plan d) := do
  let _ ← settings.requireOutcomePath
  let path ← settings.requirePlanPath
  Plan.load d disk path

theorem Settings.loadPlan_eq_load {settings : Settings} {outcomes path : String}
    (outcomesAt : settings.outcomePath = some outcomes) (planAt : settings.planPath = some path)
    (disk : Disk) : settings.loadPlan d disk = Plan.load d disk path := by
  simp only [loadPlan, requireOutcomePath, outcomesAt, requirePlanPath, planAt, Except.ok_bind]

/-- The causes for which a context has no plan. -/
inductive Error.WithholdsPlan : Error → Prop
  | refused {e : Error} (cause : e.RefusesPlan) : WithholdsPlan e
  | unreadable (path : String) : WithholdsPlan (.planUnreadable path)
  | noOutcomePath : WithholdsPlan .noOutcomePath
  | noPlanPath : WithholdsPlan .noPlanPath

theorem Error.WithholdsPlan.kind {e : Error} (h : e.WithholdsPlan) : e.kind = .configuration := by
  cases h with
  | refused cause => exact cause.kind.1
  | unreadable => rfl
  | noOutcomePath => rfl
  | noPlanPath => rfl

theorem Settings.loadPlan_failsWith (settings : Settings) (disk : Disk) :
    (settings.loadPlan d disk).FailsWith Error.WithholdsPlan := by
  apply Except.FailsWith.bind
  · unfold requireOutcomePath
    split
    · exact .ok _
    · exact .error .noOutcomePath
  · intro outcomes
    apply Except.FailsWith.bind
    · unfold requirePlanPath
      split
      · exact .ok _
      · exact .error .noPlanPath
    · intro path
      refine (Plan.load_failsWith disk path).mono ?_
      rintro e (refused | rfl)
      · exact .refused refused
      · exact .unreadable path

namespace Context

variable {context : Context d}

theorem plan_of_no_outcomePath (missing : context.settings.outcomePath = none) (disk : Disk) :
    context.plan disk = (.error .noOutcomePath, context) := by
  simp only [plan, Settings.requireOutcomePath, missing]

/-- A context without a plan makes an attempt, and keeps the plan if that succeeds. -/
theorem plan_of_empty (empty : context.cell.plan? = none) (disk : Disk) :
    context.plan disk =
      (context.settings.loadPlan d disk,
        { context with cell := ⟨(context.settings.loadPlan d disk).toOption⟩ }) := by
  have vacant : context = { context with cell := ⟨none⟩ } := by
    obtain ⟨settings, ⟨held⟩, counter, injections⟩ := context
    cases empty
    rfl
  unfold plan Settings.loadPlan
  cases context.settings.requireOutcomePath with
  | error e => exact Prod.ext rfl vacant
  | ok outcomes =>
      simp only [empty, Except.ok_bind]
      cases context.settings.requirePlanPath with
      | error e => exact Prod.ext rfl vacant
      | ok path =>
          simp only [PlanCell.fetch, empty, Except.ok_bind]
          cases Plan.load d disk path with
          | error e => exact Prod.ext rfl vacant
          | ok plan => rfl

/-- The first request of a context that has both paths is answered with what the plan file holds. -/
theorem plan_ofSettings {settings : Settings} {outcomes path : String}
    (outcomesAt : settings.outcomePath = some outcomes) (planAt : settings.planPath = some path)
    (disk : Disk) :
    ((Context.ofSettings settings : Context d).plan disk).1 = Plan.load d disk path := by
  have empty : (Context.ofSettings settings : Context d).cell.plan? = none := rfl
  rw [plan_of_empty empty]
  exact Settings.loadPlan_eq_load outcomesAt planAt disk

theorem plan_failsWith (context : Context d) (disk : Disk) :
    (context.plan disk).1.FailsWith Error.WithholdsPlan := by
  cases held : context.cell.plan? with
  | none =>
      rw [plan_of_empty held]
      exact context.settings.loadPlan_failsWith disk
  | some plan =>
      cases outcomes : context.settings.outcomePath with
      | none =>
          rw [plan_of_no_outcomePath outcomes]
          exact .error .noOutcomePath
      | some path =>
          rw [plan_of_cell held outcomes]
          exact .ok _

end Context

end FaultReplay
