import FaultReplay.Proofs.Context.Atomicity
import FaultReplay.Proofs.Context.Recording
import FaultReplay.Proofs.Fault.Attestation
import FaultReplay.Proofs.Run.Firing
import Mathlib.Data.List.Induction

/-!
# The file for outcomes

Over a run in which nothing else writes the file for outcomes, the file is as it was at the start
until a fault is applied, and from then on it is the record of the fault that was applied last. Each
record takes the place of the one before, and a call that applies no fault leaves the file alone.
-/

namespace FaultReplay

variable {d : Domain} {path : String}

/-- A turn that leaves the file of a path: what else changes the disk in it writes the file as
little as it closes the path. -/
def Turn.Leaves (path : String) : Turn d → Prop
  | .report _ => True
  | .outside change => ∀ disk : Disk,
    (change disk).read? path = disk.read? path ∧
      (disk.CanWrite path → (change disk).CanWrite path)

theorem Turn.Leaves.keepsOpen {next : Turn d} (h : next.Leaves path) : next.KeepsOpen path := by
  cases next with
  | report _ => trivial
  | outside change => exact fun disk => (h disk).2

/-- The calls of a run and one more turn are those of the run and what the turn reports. -/
theorem Turn.Calls.concat {run before : List (Turn d)} {last : Turn d} {event : Event d}
    (h : Turn.Calls (run ++ [last]) before event) :
    Turn.Calls run before event ∨ before = run ∧ last = .report (some event) := by
  rcases List.prefix_concat_iff.1 h with whole | part
  · obtain ⟨rfl, same⟩ := List.append_inj' whole rfl
    exact Or.inr ⟨rfl, (List.singleton_inj.1 same).symm⟩
  · exact Or.inl part

/-! ### One call -/

/-- An injecting context leaves everything alone, or strikes and goes on to record that. -/
theorem Context.untouched_or_strikes {context : Context d} (mode : context.mode = .ok .inject)
    (disk : Disk) (event : Event d) :
    (context.hook disk (some event)).Untouched context disk (some event) ∨
    ∃ fault path, (context.hook disk (some event)).Strikes context disk event fault ∧
      context.settings.outcomePath = some path ∧
      (context.hook disk (some event)).Records disk path (fault.outcome event) := by
  obtain ⟨spared, -⟩ | struck := context.hook_some disk event
  · left
    refine ⟨spared, ?_⟩
    -- Only a record or a log entry would change the disk; the one is no sparing, the other no
    -- injecting.
    have served := context.hook_serves disk event
    have counted := spared.injections
    generalize context.hook disk (some event) = reply at served counted
    cases served with
    | logged other => cases mode.symm.trans other
    | recorded _ planned =>
        rw [credited_injections, numbered_injections, injections_of_plan planned] at counted
        simp at counted
    | _ => rfl
  · exact Or.inr struck

namespace Session

variable {start : Session d} {run before : List (Turn d)} {last : Turn d} {event : Event d}
  {fault : Fault d}

/-- No call of the run applies a fault. -/
def Unfired (start : Session d) (run : List (Turn d)) : Prop :=
  ∀ before event fault, Turn.Calls run before event → ¬ start.Fires before event fault

/-- The last call of a run that applies a fault: every call that does comes no later. -/
structure LastFires (start : Session d) (run before : List (Turn d)) (event : Event d)
    (fault : Fault d) : Prop where
  call : Turn.Calls run before event
  fires : start.Fires before event fault
  last : ∀ other next rival, Turn.Calls run other next → start.Fires other next rival →
    other <+: before

/-- A turn after a run in which no fault is applied. -/
def Quiet (start : Session d) (run : List (Turn d)) (last : Turn d) : Prop :=
  ∀ event fault, last = .report (some event) → ¬ start.Fires run event fault

theorem Unfired.concat (h : start.Unfired run) (quiet : start.Quiet run last) :
    start.Unfired (run ++ [last]) := by
  intro before event fault call
  obtain earlier | ⟨rfl, now⟩ := call.concat
  · exact h before event fault earlier
  · exact quiet event fault now

theorem LastFires.concat (h : start.LastFires run before event fault)
    (quiet : start.Quiet run last) : start.LastFires (run ++ [last]) before event fault where
  call := h.call.trans (List.prefix_append run [last])
  fires := h.fires
  last := by
    intro other next rival call fires
    obtain earlier | ⟨rfl, now⟩ := call.concat
    · exact h.last other next rival earlier fires
    · exact absurd fires (quiet next rival now)

theorem Fires.lastFires (h : start.Fires run event fault) :
    start.LastFires (run ++ [.report (some event)]) run event fault where
  call := List.prefix_rfl
  fires := h
  last := by
    intro other next rival call _
    obtain earlier | ⟨rfl, -⟩ := call.concat
    · exact (List.prefix_append other _).trans earlier
    · exact List.prefix_rfl

/-- A run has one last call that applies a fault, if it has any. -/
theorem LastFires.unique {other : List (Turn d)} {next : Event d} {rival : Fault d}
    (h : start.LastFires run before event fault) (ho : start.LastFires run other next rival) :
    other = before ∧ next = event ∧ rival = fault := by
  have sooner := h.last other next rival ho.call ho.fires
  have later := ho.last before event fault h.call h.fires
  obtain rfl : other = before := sooner.eq_of_length_le later.length_le
  have same : other ++ [Turn.report (some next)] = other ++ [Turn.report (some event)] :=
    (List.prefix_of_prefix_length_le ho.call h.call (by simp)).eq_of_length (by simp)
  obtain ⟨rfl⟩ := List.append_cancel_left same
  exact ⟨rfl, rfl, h.fires.unique ho.fires⟩

/-! ### Runs -/

variable {outcomes : String}

/-- The file for outcomes after a turn: as before if the turn is quiet, or the record of the fault
that was applied in it. -/
theorem quiet_or_fires (mode : start.context.settings.resolveMode = .ok .inject)
    (outcomesAt : start.context.settings.outcomePath = some outcomes)
    (writable : (start.after run).disk.CanWrite outcomes) (leaves : last.Leaves outcomes) :
    (start.Quiet run last ∧
      (start.after (run ++ [last])).disk.read? outcomes =
        (start.after run).disk.read? outcomes) ∨
    ∃ event fault, last = .report (some event) ∧ start.Fires run event fault ∧
      (start.after (run ++ [last])).disk.read? outcomes = some (fault.outcome event).bytes := by
  rw [after_append, after_cons, after_nil]
  cases last with
  | outside change => exact Or.inl ⟨nofun, (leaves _).1⟩
  | report event? =>
      cases event? with
      | none => exact Or.inl ⟨nofun, rfl⟩
      | some event =>
          have injects := (start.mode_after run).trans mode
          obtain untouched | ⟨fault, path, struck, outcomePath, ended⟩ :=
            Context.untouched_or_strikes injects (start.after run).disk event
          · refine Or.inl ⟨?_, congrArg (Disk.read? · outcomes) untouched.disk⟩
            rintro other fault ⟨rfl⟩ fires
            exact Context.not_spares_of_strikes fires untouched.toSpares
          · have same := (start.outcomePath_after run).symm.trans outcomePath
            obtain rfl := Option.some.inj (outcomesAt.symm.trans same)
            exact Or.inr ⟨event, fault, rfl, struck, ended.read?_eq_iff.2 writable⟩

/-- The file for outcomes is as it was as long as no fault is applied, and then the record of the
last one. -/
theorem read?_after (mode : start.context.settings.resolveMode = .ok .inject)
    (outcomesAt : start.context.settings.outcomePath = some outcomes)
    (writable : start.disk.CanWrite outcomes) (leaves : ∀ next ∈ run, next.Leaves outcomes) :
    (start.Unfired run ∧
      (start.after run).disk.read? outcomes = start.disk.read? outcomes) ∨
    ∃ before event fault, start.LastFires run before event fault ∧
      (start.after run).disk.read? outcomes = some (fault.outcome event).bytes := by
  -- By the last turn, as the file tells of the last fault.
  induction run using List.reverseRecOn with
  | nil =>
      refine Or.inl ⟨fun before event fault call => ?_, rfl⟩
      simp [Turn.Calls] at call
  | append_singleton run last ih =>
      have earlier : ∀ next ∈ run, next.Leaves outcomes :=
        fun next mem => leaves next (List.mem_append_left _ mem)
      have open_ := canWrite_after writable fun next mem => (earlier next mem).keepsOpen
      have lastLeaves := leaves last (List.mem_append_right _ List.mem_cons_self)
      obtain ⟨quiet, kept⟩ | ⟨event, fault, rfl, fires, recorded⟩ :=
        quiet_or_fires mode outcomesAt open_ lastLeaves
      · obtain ⟨unfired, same⟩ | ⟨before, event, fault, lastFires, recorded⟩ := ih earlier
        · exact Or.inl ⟨unfired.concat quiet, kept.trans same⟩
        · exact Or.inr ⟨before, event, fault, lastFires.concat quiet, kept.trans recorded⟩
      · exact Or.inr ⟨run, event, fault, fires.lastFires, recorded⟩

end Session

/-- While nothing else writes it, the file for outcomes is as it was until a fault is applied, and
from then on it is the record of the last one, which tells what was done to the event. -/
theorem Session.outcome_file_tells_last (start : Session d)
    (mode : start.context.settings.resolveMode = .ok .inject) (outcomes : String)
    (outcomesAt : start.context.settings.outcomePath = some outcomes)
    (writable : start.disk.CanWrite outcomes) (run : List (Turn d))
    (leaves : ∀ next ∈ run, next.Leaves outcomes) :
    ((start.Unfired run ∧
      (start.after run).disk.read? outcomes = start.disk.read? outcomes) ∨
    ∃ before event fault, start.LastFires run before event fault ∧
      (start.after run).disk.read? outcomes = some (fault.outcome event).render.toUTF8) ∧
    ∀ before event,
      let now := start.after before
      ((∀ fault, ¬ start.Fires before event fault) →
        (now.reply (some event)).Untouched now.context now.disk (some event)) ∧
      ∀ fault, start.Fires before event fault →
        fault.trigger = now.context.events + 1 ∧
        (∃ plan, (now.context.plan now.disk).1 = .ok plan ∧ fault ∈ plan.faults) ∧
        ∃ struck, (now.reply (some event)).event = some struck ∧
          fault.Attests event struck (fault.outcome event) := by
  refine ⟨read?_after mode outcomesAt writable leaves, fun before event => ⟨?_, ?_⟩⟩
  · intro unfired
    have injects := (start.mode_after before).trans mode
    obtain untouched | ⟨fault, path, struck, -⟩ :=
      Context.untouched_or_strikes injects (start.after before).disk event
    · exact untouched
    · exact absurd struck (unfired fault)
  · intro fault fires
    obtain ⟨plan, given, found⟩ := fires.aims
    exact ⟨fires.aims.trigger, ⟨plan, given, (Plan.find_eq_some_iff.1 found).1⟩,
      fault.corrupt event, fires.event, fault.attests_outcome fires.fits⟩

/-- Of three faults the second does not fit, and in the file the record of the third one, which has
two cells, has taken the place of that of the first. -/
theorem Session.outcome_file_tells_last_two_cells :
    ∃ (start : Session .memory) (access : Event .memory) (third : Fault .memory)
      (run : List (Turn .memory)),
      run = Turn.reports [access, access, access] ∧
      (start.after run).context.injections = 2 ∧
      ((start.after [.report (some access)]).reply (some access)).result =
        .error (.byteDiffers 9 6 2) ∧
      start.LastFires run (Turn.reports [access, access]) access third ∧
      third.Attests access (Memory.Access.mk #[7, 9] ⟨0, 1, 2⟩) (third.outcome access) ∧
      (start.after run).disk.read? "outcome.txt" = some
        ("mem_val_before:6\nmem_val_after:7\nsecondary_val_before:8\nsecondary_val_after:9\n" ++
          "trigger_iteration:3\ncorruption_mask:1\nexpected_prior_value:6\n" ++
          "offset:0\naccess_size:1\ntotal_size:2\nmulti_cell:1\nsecondary_offset:1\n").toUTF8 := by
  let access : Event .memory := Memory.Access.mk #[6, 8] ⟨0, 1, 2⟩
  let first : Fault .memory :=
    { trigger := 1, identity := ⟨0, 1, 2⟩, mask := 1, expected := 6 }
  let second : Fault .memory := { first with trigger := 2, expected := 9 }
  let third : Fault .memory :=
    { first with trigger := 3, secondary := some 1, multiCell := true }
  let plan : Plan .memory := ⟨[first, second, third], by decide, by decide, by decide⟩
  let start : Session .memory :=
    ⟨.withPlan { mode := some "inject", outcomePath := some "outcome.txt" } plan, .empty⟩
  let run : List (Turn .memory) := Turn.reports [access, access, access]
  have writable : Disk.empty.CanWrite "outcome.txt" :=
    ⟨⟨false, ["outcome.txt"]⟩, by decide +kernel, Or.inl (by decide)⟩
  have leaves : ∀ next ∈ run, next.Leaves "outcome.txt" := by
    intro next mem
    obtain ⟨event, -, rfl⟩ := List.mem_map.1 mem
    trivial
  obtain ⟨tells, calls⟩ :=
    outcome_file_tells_last start (by decide +kernel) "outcome.txt" rfl writable run leaves
  have fits : third.Fits access := by
    refine ⟨by decide, by decide, ?_, by decide, by decide⟩
    rintro _ ⟨rfl⟩
    decide
  have fires : start.Fires (Turn.reports [access, access]) access third :=
    fires_iff.2 ⟨by decide +kernel, ⟨plan, by decide +kernel, by decide +kernel⟩, fits⟩
  obtain ⟨-, -, struck, seen, attests⟩ :=
    (calls (Turn.reports [access, access]) access).2 third fires
  have corrupted : struck = Memory.Access.mk #[7, 9] ⟨0, 1, 2⟩ := by
    apply Option.some.inj
    rw [← seen]
    decide +kernel
  obtain ⟨unfired, -⟩ | ⟨before, event, fault, last, recorded⟩ := tells
  · exact absurd fires (unfired _ access third List.prefix_rfl)
  · obtain ⟨rfl, rfl, rfl⟩ := fires.lastFires.unique last
    refine ⟨start, access, third, run, rfl, by decide +kernel, by decide +kernel, last,
      corrupted ▸ attests, ?_⟩
    rw [recorded]
    exact congrArg (fun text : String => some text.toUTF8) (by decide +kernel)

end FaultReplay
