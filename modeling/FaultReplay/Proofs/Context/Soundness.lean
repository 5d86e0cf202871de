import FaultReplay.Plan.Cell
import FaultReplay.Plan.Json
import FaultReplay.Proofs.Context.Loading
import FaultReplay.Proofs.Plan.Soundness

/-!
# Sound plans and what they rule out

Every way to a plan ends in the same check, so the faults of a plan are sound whichever way it was
come by. A strike checks two more things that a sound fault cannot fail: that the second cell is not
the first one, and that the mask fits in a byte.
-/

namespace FaultReplay

open Except (FailsWith)

variable {d : Domain}

/-- The errors of a strike that only a fault that is not sound could cause. -/
def Error.BlamesFault : Error → Prop
  | primaryTwice .. | wideMask .. => True
  | _ => False

theorem Error.WithholdsPlan.not_blamesFault {e : Error} (h : e.WithholdsPlan) :
    ¬ e.BlamesFault := by
  cases h with
  | refused cause =>
      cases e with
      | primaryTwice | wideMask => exact cause.elim
      | _ => exact id
  | unreadable => exact id
  | noOutcomePath => exact id
  | noPlanPath => exact id

/-! ### Strikes -/

namespace Memory

variable {fault : Fault .memory}

/-- The second cell of a valid fault is not its first one: a distance that is not 0 leads away from
it, and the sum is not taken modulo anything. -/
theorem secondCell?_failsWith (valid : fault.Valid) (sequence : UInt64) (access : Access) :
    (secondCell? sequence fault access).FailsWith fun e => ¬ e.BlamesFault := by
  simp only [secondCell?]
  split
  · rename_i double
    have apart := ne_add_toNat (valid.2.2 double) access.identity.offset.toNat
    rw [if_neg apart.symm]
    split
    · exact .ok _
    · exact .error id
  · exact .ok _

theorem strike_failsWith (valid : fault.Valid) (sequence : UInt64) (access : Access) :
    (strike sequence fault access).FailsWith fun e => ¬ e.BlamesFault := by
  simp only [strike]
  split
  · exact .error id
  split
  · exact .error id
  split
  · rename_i refused
    exact .error (secondCell?_failsWith valid sequence access _ refused)
  split
  · rename_i wide
    exact absurd wide (UInt64.not_lt.2 valid.1)
  split
  · exact .error id
  · exact .ok _

end Memory

/-! ### Reports -/

namespace Context

variable {context : Context d} {disk : Disk}

theorem mode_failsWith (context : Context d) :
    context.mode.FailsWith fun e => ∃ value, e = .unknownMode value := by
  unfold mode Settings.resolveMode Mode.resolve
  split
  · exact .ok _
  · split
    · exact .ok _
    · exact .error ⟨_, rfl⟩

theorem attemptLog_failsWith (context : Context d) (disk : Disk) (number : UInt64)
    (event : Event d) :
    (context.attemptLog disk number event).FailsWith fun e => ¬ e.BlamesFault := by
  apply FailsWith.bind
  · unfold Settings.requireProfilePath
    split
    · exact .ok _
    · exact .error id
  · intro path
    unfold Profile.append
    split
    · exact .ok _
    · exact .error id
    · exact .error id

/-- No report of an access is answered with an error that blames the fault. -/
theorem hook_failsWith (context : Context .memory) (disk : Disk) (report : Option (Event .memory)) :
    (context.hook disk report).result.FailsWith fun e => ¬ e.BlamesFault := by
  cases report with
  | none => exact .ok _
  | some event =>
      have served := context.hook_serves disk event
      generalize context.hook disk (some event) = reply at served
      cases served with
      | disabled | logged | spared | recorded => exact .ok _
      | invalid mode =>
          obtain ⟨value, rfl⟩ := mode_failsWith context _ mode
          exact .error id
      | unlogged _ refused => exact .error (attemptLog_failsWith context disk _ event _ refused)
      | unplanned _ refused =>
          have cause := plan_failsWith context disk _ (congrArg Prod.fst refused)
          exact .error cause.not_blamesFault
      | @missed plan _ fault _ _ _ aimed refused =>
          have valid := plan.valid fault (Plan.find_eq_some_iff.1 aimed).1
          exact .error (Memory.strike_failsWith valid _ event _ refused)
      | unrecorded => exact .error id

end Context

/-! ### The ways to a plan -/

/-- The plans there are: those that are made of a list of faults, read from a text, from a file or
from JSON, handed out by a cell that may have to load first, or put into a cell beforehand. -/
inductive Plan.Obtained : Plan d → Prop
  | made {faults : List (Fault d)} {plan : Plan d} (accepted : ofFaults faults = .ok plan) :
      Obtained plan
  | parsed {text : String} {plan : Plan d} (read : parse d text = .ok plan) : Obtained plan
  | loaded {disk : Disk} {path : String} {plan : Plan d} (read : load d disk path = .ok plan) :
      Obtained plan
  | decoded {text : String} {plan : Plan d} (read : ofJsonText d text = .ok plan) : Obtained plan
  | fetched {cell : PlanCell d} {disk : Disk} {path : String} {plan : Plan d}
      (given : (cell.fetch disk path).1 = .ok plan) : Obtained plan
  | held {cell : PlanCell d} {plan : Plan d} (there : cell.plan? = some plan) : Obtained plan

/-- A plan is sound whichever way it was come by, so no context reports that a fault names its first
byte twice or has a mask wider than a byte. -/
theorem Plan.sound_of_obtained :
    (∀ (d : Domain) (faults : List (Fault d)),
      (∃ plan, ofFaults faults = .ok plan ∧ plan.faults = faults) ↔ Sound faults) ∧
    (∀ (d : Domain) (plan : Plan d), plan.Obtained → Sound plan.faults) ∧
    ∀ (context : Context .memory) (disk : Disk) (report : Option (Event .memory)),
      (∀ sequence, (context.hook disk report).result ≠ .error (.primaryTwice sequence)) ∧
      ∀ mask, (context.hook disk report).result ≠ .error (.wideMask mask) := by
  refine ⟨fun d faults => exists_ofFaults_iff, fun d plan _ => plan.sound, ?_⟩
  intro context disk report
  have answered := context.hook_failsWith disk report
  constructor
  · intro sequence blamed
    exact answered _ blamed trivial
  · intro mask blamed
    exact answered _ blamed trivial

/-- A plan read from text whose second cell lies just past the end of the region: the access is
refused for that and for nothing else. -/
theorem Plan.sound_of_obtained_past_end :
    ∃ (plan : Plan .memory) (context : Context .memory) (access : Event .memory),
      parse .memory "1 3 170 0 1 2 1 2" = .ok plan ∧ Sound plan.faults ∧
      context.cell.plan? = some plan ∧
      (context.hook .empty (some access)).result = .error (.secondaryOutsideRegion 0 2 2) ∧
      (context.hook .empty (some access)).result ≠ .error (.primaryTwice 1) ∧
      (context.hook .empty (some access)).result ≠ .error (.wideMask 3) := by
  let fault : Fault .memory :=
    { trigger := 1, identity := ⟨0, 1, 2⟩, mask := 3, expected := 170, secondary := some 2,
      multiCell := true }
  let plan : Plan .memory := ⟨[fault], by decide, by decide, by decide⟩
  let context : Context .memory :=
    .withPlan { mode := some "inject", outcomePath := some "outcome.txt" } plan
  let access : Event .memory := Memory.Access.mk #[170, 8] ⟨0, 1, 2⟩
  have read : parse .memory "1 3 170 0 1 2 1 2" = .ok plan := by decide +kernel
  obtain ⟨-, sound, unblamed⟩ := sound_of_obtained
  obtain ⟨once, narrow⟩ := unblamed context .empty (some access)
  exact ⟨plan, context, access, read, sound .memory plan (.parsed read), rfl,
    by decide +kernel, once 1, narrow 3⟩

end FaultReplay
