import FaultReplay.Proofs.Context.Verdict
import FaultReplay.Proofs.Run.Numbering

/-!
# Faults in registers

What an injecting context does with a retired instruction, whatever its label, its core and its
registers are, and however many of these there are. The size of an instruction has no part in it:
a call with another size is the same call up to the size of what comes back.
-/

namespace FaultReplay

variable {fault : Fault .instruction} {retired : Instruction.Retirement}
  {context : Context .instruction} {disk : Disk} {plan : Plan .instruction} {outcomes : String}

/-! ### Another size -/

/-- An instruction with another size. -/
def Instruction.Retirement.resize (size : UInt64) (retired : Retirement) : Retirement :=
  { retired with size }

/-- A reply with another size of its instruction. -/
def Reply.resize (size : UInt64) (reply : Reply .instruction) : Reply .instruction :=
  { reply with event := Option.map (Instruction.Retirement.resize size) reply.event }

theorem Instruction.strike_resize (number : UInt64) (fault : Fault .instruction) (size : UInt64)
    (retired : Retirement) :
    strike number fault (retired.resize size) =
      (strike number fault retired).map fun answer => (answer.1.resize size, answer.2) := by
  obtain ⟨label, old, core, registers⟩ := retired
  simp only [strike, Retirement.resize]
  split
  · split <;> rfl
  · rfl

namespace Context

theorem record_resize (context : Context .instruction) (disk : Disk) (fault : Fault .instruction)
    (size : UInt64) (struck : Event .instruction) (observed : List (String × String)) :
    context.record disk fault (Instruction.Retirement.resize size struck) observed =
      (context.record disk fault struck observed).resize size := by
  unfold record
  dsimp only
  split
  · rfl
  · split <;> rfl

/-- A call with another size of the instruction ends as the call does, up to that size. -/
theorem hook_resize (mode : context.mode = .ok .inject) (disk : Disk) (size : UInt64)
    (retired : Instruction.Retirement) :
    context.hook disk (some (retired.resize size)) =
      (context.hook disk (some retired)).resize size := by
  rw [hook_of_inject mode, hook_of_inject mode]
  rcases planned : context.plan disk with ⟨answer, after⟩
  cases answer with
  | error e =>
      rw [inject_of_refused planned, inject_of_refused planned]
      rfl
  | ok plan =>
      rw [inject_eq planned, inject_eq planned]
      -- The plan is asked for the core and the label, of which the size is no part.
      have same : Event.identity (d := .instruction) (retired.resize size) =
        Event.identity (d := .instruction) retired := rfl
      rw [same]
      cases plan.find (context.events + 1) (Event.identity (d := .instruction) retired) with
      | none => rfl
      | some fault =>
          simp only [Fault.strike, Instruction.strike_resize]
          cases Instruction.strike (context.events + 1) fault retired with
          | error e => rfl
          | ok answer => exact record_resize _ _ _ _ _ _

end Context

/-! ### The three answers -/

namespace Instruction

theorem strike_of_count (count : retired.registers.length ≠ 1) (number : UInt64)
    (fault : Fault .instruction) :
    strike number fault retired =
      .error (.registerCount retired.label retired.registers.length number) := by
  rw [strike]
  split
  · rename_i before one
    simp [one] at count
  · rfl

theorem strike_of_differs {before : UInt64} (one : retired.registers = [before])
    (differs : before ≠ fault.expected) (number : UInt64) :
    strike number fault retired = .error (.registerDiffers number fault.expected before) := by
  simp only [strike, one, if_pos differs]

/-- The answer to an instruction that a fault is aimed at: what the registers must be for each
answer there is, and what becomes of them. -/
structure Answers (reply : Reply .instruction) (context : Context .instruction) (disk : Disk)
    (fault : Fault .instruction) (retired : Retirement) : Prop where
  unsupported : (∃ e, reply.result = .error e ∧ e.kind = .unsupportedCase) ↔
    retired.registers.length ≠ 1
  consistency : (∃ e, reply.result = .error e ∧ e.kind = .consistency) ↔
    ∃ before, retired.registers = [before] ∧ before ≠ fault.expected
  done : reply.result = .ok () ↔
    ∃ before, retired.registers = [before] ∧ before = fault.expected
  struck : reply.result = .ok () → ∃ before, retired.registers = [before] ∧
    reply.event = some { retired with registers := [before ^^^ fault.mask] } ∧
    reply.context.injections = context.injections + 1
  refused : ∀ e, reply.result = .error e → reply.Untouched context disk (some retired)

end Instruction

namespace Context

open Instruction (Answers)

/-- The three ways out of an aimed report exclude each other, and the registers tell which it is. -/
theorem answers_of_find (mode : context.mode = .ok .inject)
    (given : (context.plan disk).1 = .ok plan)
    (outcomesAt : context.settings.outcomePath = some outcomes) (writable : disk.CanWrite outcomes)
    (aimed : plan.find (context.events + 1) retired.identity = some fault) :
    Answers (context.hook disk (some retired)) context disk fault retired := by
  have follows := context.follows_verdict mode given outcomesAt writable retired
  have refusal (e : Error) (refused : Fault.strike (context.events + 1) fault retired = .error e) :=
    untouched_of_refused mode given outcomesAt writable aimed refused
  generalize context.hook disk (some retired) = reply at follows refusal
  by_cases count : retired.registers.length = 1
  · obtain ⟨before, one⟩ := List.length_eq_one_iff.1 count
    by_cases same : before = fault.expected
    · have fits : Fault.Fits (d := .instruction) fault retired := one.trans (by rw [same])
      rw [Plan.verdict_of_fits (d := .instruction) aimed fits] at follows
      have result : reply.result = .ok () := follows.result
      have corrupted : Fault.corrupt (d := .instruction) fault retired =
          { retired with registers := [before ^^^ fault.mask] } := by
        simp [Fault.corrupt, Event.corrupt, Instruction.Retirement.corrupt, one]
      exact
        { unsupported := by simp [result, one]
          consistency := by simp [result, one, same]
          done := by simp [result, one, same]
          struck := fun _ =>
            ⟨before, one, follows.event.trans (congrArg some corrupted), follows.injections⟩
          refused := fun e failed => by cases result.symm.trans failed }
    · obtain ⟨result, untouched⟩ := refusal _ (Instruction.strike_of_differs one same _)
      exact
        { unsupported := by simp [result, one, Error.kind]
          consistency := by simp [result, one, same, Error.kind]
          done := by simp [result, one, same]
          struck := fun done => by cases result.symm.trans done
          refused := fun _ _ => untouched }
  · obtain ⟨result, untouched⟩ := refusal _ (Instruction.strike_of_count count _ fault)
    have several (before : UInt64) : retired.registers ≠ [before] := fun one => by
      simp [one] at count
    exact
      { unsupported := by simp [result, count, Error.kind]
        consistency := by simp [result, several, Error.kind]
        done := by simp [result, several]
        struck := fun done => by cases result.symm.trans done
        refused := fun _ _ => untouched }

/-- An injecting context lets an instruction through, refuses it for the number or the value of its
registers, or strikes it, each in exactly its case and whatever its size. -/
theorem register_injection_exact (mode : context.mode = .ok .inject)
    (given : (context.plan disk).1 = .ok plan)
    (outcomesAt : context.settings.outcomePath = some outcomes) (writable : disk.CanWrite outcomes)
    (label : String) (size core : UInt64) (registers : List UInt64) :
    let retired : Instruction.Retirement := { label, size, core, registers }
    let reply := context.hook disk (some retired)
    ∃ n, reply.context.events = n ∧
      ((∀ fault ∈ plan.faults, ¬ (fault.trigger = n ∧ fault.identity = ⟨core, label⟩)) →
        reply.result = .ok () ∧ reply.Untouched context disk (some retired)) ∧
      (∀ fault ∈ plan.faults, fault.trigger = n → fault.identity = ⟨core, label⟩ →
        Answers reply context disk fault retired) ∧
      ∀ other, context.hook disk (some (retired.resize other)) = reply.resize other := by
  intro retired reply
  refine ⟨context.events + 1, ?_, ?_, ?_, ?_⟩
  · exact Session.events_reply_some ⟨context, disk⟩ retired
  · intro unaimed
    have none : plan.find (context.events + 1) retired.identity = none :=
      Plan.find_eq_none_iff.2 fun fault mem same => unaimed fault mem (Prod.mk.inj same)
    exact untouched_of_find_eq_none (d := .instruction) mode given outcomesAt writable none
  · intro fault mem trigger identity
    have aimed : plan.find (context.events + 1) retired.identity = some fault :=
      Plan.find_eq_some_iff.2 ⟨mem, Prod.ext trigger identity⟩
    exact answers_of_find mode given outcomesAt writable aimed
  · intro other
    exact hook_resize mode disk other retired

/-- Of three faults for one number an instruction gets the one for its own core and label: a value
is struck, no register is not supported, another value is inconsistent, and a third label is let
through. -/
theorem register_injection_exact_three_faults :
    ∃ (context : Context .instruction) (plan : Plan .instruction) (fault : Fault .instruction),
      (context.plan .empty).1 = .ok plan ∧ fault ∈ plan.faults ∧
      plan.faults.map (fun fault => fault.identity) = [⟨0, "ADD"⟩, ⟨1, "ADD"⟩, ⟨1, "SUB"⟩] ∧
      (context.hook .empty (some ⟨"ADD", 4, 1, [3]⟩)).event =
        some ⟨"ADD", 4, 1, [9223372036854775811]⟩ ∧
      (∃ e, (context.hook .empty (some ⟨"ADD", 2, 1, []⟩)).result = .error e ∧
        e.kind = .unsupportedCase) ∧
      (∃ e, (context.hook .empty (some ⟨"ADD", 4, 1, [4]⟩)).result = .error e ∧
        e.kind = .consistency) ∧
      (context.hook .empty (some ⟨"MUL", 4, 1, [3, 3]⟩)).Untouched context .empty
        (some ⟨"MUL", 4, 1, [3, 3]⟩) := by
  let fault : Fault .instruction :=
    { trigger := 1, identity := ⟨1, "ADD"⟩, mask := 9223372036854775808, expected := 3 }
  let plan : Plan .instruction :=
    ⟨[{ fault with identity := ⟨0, "ADD"⟩, mask := 1 }, fault,
        { fault with identity := ⟨1, "SUB"⟩, mask := 2 }], by decide, by decide, by decide⟩
  let context : Context .instruction :=
    .withPlan { mode := some "inject", outcomePath := some "outcome.txt" } plan
  have mode : context.mode = .ok .inject := by decide +kernel
  have given : (context.plan .empty).1 = .ok plan := rfl
  have writable : Disk.empty.CanWrite "outcome.txt" :=
    ⟨⟨false, ["outcome.txt"]⟩, by decide +kernel, Or.inl (by decide)⟩
  have mem : fault ∈ plan.faults := List.mem_cons_of_mem _ List.mem_cons_self
  have answer := register_injection_exact mode given rfl writable
  obtain ⟨_, rfl, -, struck, -⟩ := answer "ADD" 4 1 [3]
  obtain ⟨_, rfl, -, missing, -⟩ := answer "ADD" 2 1 []
  obtain ⟨_, rfl, -, differing, -⟩ := answer "ADD" 4 1 [4]
  obtain ⟨_, rfl, unaimed, -⟩ := answer "MUL" 4 1 [3, 3]
  refine ⟨context, plan, fault, given, mem, rfl, ?_, ?_, ?_, ?_⟩
  · have answers := struck fault mem (by decide +kernel) rfl
    obtain ⟨_, ⟨⟩, event, -⟩ := answers.struck (answers.done.2 ⟨3, rfl, rfl⟩)
    exact event.trans (by decide)
  · exact (missing fault mem (by decide +kernel) rfl).unsupported.2 (by decide)
  · exact (differing fault mem (by decide +kernel) rfl).consistency.2 ⟨4, rfl, by decide⟩
  · exact (unaimed (by decide)).2

end Context

end FaultReplay
