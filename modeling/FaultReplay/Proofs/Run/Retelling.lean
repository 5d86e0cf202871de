import FaultReplay.Proofs.Context.Loading
import FaultReplay.Proofs.Context.Recording
import FaultReplay.Proofs.Fault.Legibility
import FaultReplay.Proofs.Run.Firing

/-!
# Records of a run that come back

What a call writes to the file for outcomes is the record of one fault, so whether it can be read
again is a matter of that fault. A plan that is loaded in the course of a run is read from a text;
if a plan that was there from the start was too, every record of the run comes back.
-/

namespace FaultReplay

variable {d : Domain} {context : Context d} {disk : Disk} {event : Event d} {fault : Fault d}
  {plan : Plan d} {path : String}

/-- A cell without a plan, or with one that was read from a text. -/
def PlanCell.FromText (cell : PlanCell d) : Prop :=
  ∀ plan, cell.plan? = some plan → ∃ text, Plan.parse d text = .ok plan

/-! ### Plans that come from texts -/

theorem Plan.exists_parse_of_load (h : load d disk path = .ok plan) :
    ∃ text, parse d text = .ok plan := by
  rw [load] at h
  cases held : disk.readText? path with
  | none =>
      rw [held] at h
      cases h
  | some text =>
      rw [held] at h
      exact ⟨text, h⟩

theorem Settings.exists_parse_of_loadPlan {settings : Settings}
    (h : settings.loadPlan d disk = .ok plan) : ∃ text, Plan.parse d text = .ok plan := by
  obtain ⟨outcomes, -, h⟩ := Except.exists_of_bind_eq_ok h
  obtain ⟨path, -, loaded⟩ := Except.exists_of_bind_eq_ok h
  exact Plan.exists_parse_of_load loaded

namespace Context

/-- A request for the plan leaves a plan that was read from a text, if it leaves one. -/
theorem fromText_plan (h : context.cell.FromText) (disk : Disk) :
    (context.plan disk).2.cell.FromText := by
  cases held : context.cell.plan? with
  | none =>
      rw [plan_of_empty held]
      intro plan loaded
      cases attempt : context.settings.loadPlan d disk with
      | error e =>
          rw [attempt] at loaded
          cases loaded
      | ok found =>
          rw [attempt] at loaded
          obtain rfl := Option.some.inj loaded
          exact Settings.exists_parse_of_loadPlan attempt
  | some plan =>
      intro other there
      have kept : (context.plan disk).2.cell.plan? = some plan := plan?_of_plan rfl held
      obtain rfl := Option.some.inj (kept.symm.trans there)
      exact h plan held

theorem fromText_hook (h : context.cell.FromText) (disk : Disk) (event : Event d) :
    (context.hook disk (some event)).context.cell.FromText := by
  obtain ⟨same, -⟩ | ⟨asked, -⟩ := context.cell_hook disk event
  · rwa [same]
  · rw [asked]
    exact fromText_plan h disk

/-! ### One call -/

/-- A call that applies a fault leaves its record where the path for outcomes takes bytes. -/
theorem read?_of_strikes
    (struck : (context.hook disk (some event)).Strikes context disk event fault)
    (outcomesAt : context.settings.outcomePath = some path) (writable : disk.CanWrite path) :
    (context.hook disk (some event)).disk.read? path =
      some (fault.outcome event).render.toUTF8 :=
  (records_of_strikes struck outcomesAt).read?_eq_iff.2 writable

theorem load_of_strikes
    (struck : (context.hook disk (some event)).Strikes context disk event fault)
    (outcomesAt : context.settings.outcomePath = some path) (writable : disk.CanWrite path) :
    Outcome.load (context.hook disk (some event)).disk path = .ok (fault.outcome event) ↔
      fault.Inscribable := by
  rw [Outcome.load_eq_ok_iff (read?_of_strikes struck outcomesAt writable),
    Fault.legible_outcome_iff]

/-- A fault that comes from a text has a record that comes back. -/
theorem inscribable_of_strikes (h : context.cell.FromText)
    (struck : (context.hook disk (some event)).Strikes context disk event fault) :
    fault.Inscribable := by
  obtain ⟨plan, held, inside⟩ := exists_plan?_of_strikes struck
  obtain ⟨text, read⟩ := fromText_hook h disk event plan held
  exact (Plan.printable_of_parse read fault inside).inscribable

end Context

/-! ### Runs -/

namespace Session

variable {start : Session d}

theorem fromText_turn (h : start.context.cell.FromText) (next : Turn d) :
    (start.turn next).context.cell.FromText := by
  cases next with
  | outside change => exact h
  | report event? =>
      cases event? with
      | none => exact h
      | some event => exact Context.fromText_hook h start.disk event

/-- A run keeps a plan that was read from a text and finds no other. -/
theorem fromText_after (h : start.context.cell.FromText) (run : List (Turn d)) :
    (start.after run).context.cell.FromText := by
  induction run generalizing start with
  | nil => exact h
  | cons next run ih => exact ih (fromText_turn h next)

end Session

/-- A record comes back from its file exactly if no key and no value has a character that ends it
there, and of the record of an applied fault only the label of an instruction can have one. -/
theorem Session.records_come_back :
    (∀ (outcome : Outcome) (disk : Disk) (path : String),
      disk.read? path = some outcome.render.toUTF8 →
      (Outcome.load disk path = .ok outcome ↔
        ∀ key value, (key, value) ∈ outcome.fields →
          ':' ∉ key.toList ∧ '\n' ∉ key.toList ∧ '\n' ∉ value.toList ∧
            value.toList.getLast? ≠ some '\r')) ∧
    (∀ (context : Context .memory) (disk : Disk) (access : Event .memory) (fault : Fault .memory)
        (path : String),
      (context.hook disk (some access)).Strikes context disk access fault →
      context.settings.outcomePath = some path → disk.CanWrite path →
      let left := (context.hook disk (some access)).disk
      left.read? path = some (fault.outcome access).render.toUTF8 ∧
        Outcome.load left path = .ok (fault.outcome access)) ∧
    (∀ (context : Context .instruction) (disk : Disk) (retired : Event .instruction)
        (fault : Fault .instruction) (path : String),
      (context.hook disk (some retired)).Strikes context disk retired fault →
      context.settings.outcomePath = some path → disk.CanWrite path →
      let left := (context.hook disk (some retired)).disk
      left.read? path = some (fault.outcome retired).render.toUTF8 ∧
        (Outcome.load left path = .ok (fault.outcome retired) ↔
          '\n' ∉ fault.identity.label.toList ∧
            fault.identity.label.toList.getLast? ≠ some '\r')) ∧
    ∀ (start : Session .instruction), start.context.cell.FromText →
      ∀ (before : List (Turn .instruction)) (retired : Event .instruction)
        (fault : Fault .instruction) (path : String),
      start.Fires before retired fault → start.context.settings.outcomePath = some path →
      (start.after before).disk.CanWrite path →
      Outcome.load ((start.after before).reply (some retired)).disk path =
        .ok (fault.outcome retired) := by
  refine ⟨?_, ?_, ?_, ?_⟩
  · intro outcome disk path held
    rw [Outcome.load_eq_ok_iff held]
    constructor
    · intro legible key value mem
      obtain ⟨whole, single, closed⟩ := legible _ mem
      exact ⟨whole, single, closed⟩
    · intro plain field mem
      obtain ⟨whole, single, closed⟩ := plain field.1 field.2 mem
      exact ⟨whole, single, closed⟩
  · intro context disk access fault path struck outcomesAt writable
    exact ⟨Context.read?_of_strikes struck outcomesAt writable,
      (Context.load_of_strikes struck outcomesAt writable).2 trivial⟩
  · intro context disk retired fault path struck outcomesAt writable
    exact ⟨Context.read?_of_strikes struck outcomesAt writable,
      Context.load_of_strikes struck outcomesAt writable⟩
  · intro start texts before retired fault path fires outcomesAt writable
    have path_after := (start.outcomePath_after before).trans outcomesAt
    apply (Context.load_of_strikes fires path_after writable).2
    exact Context.inscribable_of_strikes (start.fromText_after texts before) fires

/-- The record of a fault that a text names comes back with the colon of its label. With a carriage
return at the end, which the label of a preloaded fault can have, it does not. -/
theorem Session.records_come_back_colon_return :
    ∃ (named other : Fault .instruction) (start : Session .instruction)
      (context : Context .instruction) (colon returned : Event .instruction)
      (cell : Context .memory) (access : Event .memory) (flip : Fault .memory),
      named.identity.label = "a:b" ∧ start.Fires [] colon named ∧
      Outcome.load (start.reply (some colon)).disk "outcome.txt" = .ok (named.outcome colon) ∧
      other.identity.label = "ADD\r" ∧
      (context.hook .empty (some returned)).Strikes context .empty returned other ∧
      Outcome.load (context.hook .empty (some returned)).disk "outcome.txt" ≠
        .ok (other.outcome returned) ∧
      (cell.hook .empty (some access)).Strikes cell .empty access flip ∧
      Outcome.load (cell.hook .empty (some access)).disk "outcome.txt" =
        .ok (flip.outcome access) := by
  let settings : Settings := { mode := some "inject", outcomePath := some "outcome.txt" }
  let named : Fault .instruction :=
    { trigger := 1, identity := ⟨0, "a:b"⟩, mask := 16, expected := 3 }
  let other : Fault .instruction := { named with identity := ⟨0, "ADD\r"⟩ }
  let flip : Fault .memory := { trigger := 1, identity := ⟨0, 1, 2⟩, mask := 1, expected := 6 }
  let colon : Event .instruction := Instruction.Retirement.mk "a:b" 4 0 [3]
  let returned : Event .instruction := Instruction.Retirement.mk "ADD\r" 4 0 [3]
  let access : Event .memory := Memory.Access.mk #[6, 8] ⟨0, 1, 2⟩
  let plan : Plan .instruction := ⟨[named], by decide, by decide, by decide⟩
  let start : Session .instruction := ⟨.withPlan settings plan, .empty⟩
  let context : Context .instruction :=
    .withPlan settings ⟨[other], by decide, by decide, by decide⟩
  let cell : Context .memory := .withPlan settings ⟨[flip], by decide, by decide, by decide⟩
  have writable : Disk.empty.CanWrite "outcome.txt" :=
    ⟨⟨false, ["outcome.txt"]⟩, by decide +kernel, Or.inl (by decide)⟩
  have texts : start.context.cell.FromText := by
    rintro _ ⟨rfl⟩
    exact ⟨"1\n1 16 3 0 a:b\n", by decide +kernel⟩
  have fires : start.Fires [] colon named :=
    fires_iff.2 ⟨by decide +kernel, ⟨plan, by decide +kernel, by decide +kernel⟩, rfl⟩
  have struck : (context.hook .empty (some returned)).Strikes context .empty returned other :=
    Context.strikes_iff.2 ⟨by decide +kernel, ⟨_, rfl, by decide +kernel⟩, rfl⟩
  have flips : (cell.hook .empty (some access)).Strikes cell .empty access flip := by
    refine Context.strikes_iff.2 ⟨by decide +kernel, ⟨_, rfl, by decide +kernel⟩, ?_⟩
    refine ⟨by decide, by decide, ?_, by decide, by decide⟩
    rintro _ ⟨⟩
  obtain ⟨files, memory, instruction, run⟩ := records_come_back
  refine ⟨named, other, start, context, colon, returned, cell, access, flip, rfl, fires,
    run start texts [] colon named "outcome.txt" fires rfl writable, rfl, struck, ?_, flips,
    (memory cell .empty access flip "outcome.txt" flips rfl writable).2⟩
  intro loaded
  obtain ⟨held, -⟩ := instruction context .empty returned other "outcome.txt" struck rfl writable
  obtain ⟨-, -, -, closed⟩ :=
    (files _ _ _ held).1 loaded "label" "ADD\r" (by decide +kernel)
  exact closed (by decide)

end FaultReplay
