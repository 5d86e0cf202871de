import FaultReplay.Proofs.Context.Twins
import FaultReplay.Proofs.Run.Basic
import Mathlib.Logic.Function.Basic

/-!
# Both domains on one disk

A harness has a context for each domain, configured from one source, and one disk for all of them.
If no file that one domain writes is a file of the other, each domain gets from any row of reports
what it would get from its own reports alone, and its keys are all that it takes from the source.
-/

namespace FaultReplay

/-! ### Keys and settings -/

/-- The keys of a domain's settings. -/
def Domain.keys (d : Domain) : List String :=
  ["MODE", "PROFILE_FILE", "PLAN_FILE", "OUTCOME_FILE"].map d.key

/-- The domains have no key in common. -/
theorem Domain.not_mem_keys {d other : Domain} (apart : d ≠ other) {key : String}
    (own : key ∈ d.keys) : key ∉ other.keys := by
  have disjoint : ∀ key ∈ Domain.instruction.keys, key ∉ Domain.memory.keys := by decide
  cases d with
  | instruction =>
      cases other with
      | instruction => exact absurd rfl apart
      | memory => exact disjoint key own
  | memory =>
      cases other with
      | instruction => exact fun theirs => disjoint key theirs own
      | memory => exact absurd rfl apart

/-- A domain's settings depend on its own keys alone. -/
theorem Settings.ofSource_congr {d : Domain} {source changed : String → Option String}
    (same : ∀ key ∈ d.keys, changed key = source key) :
    Settings.ofSource d changed = Settings.ofSource d source := by
  simp only [Domain.keys, List.map_cons, List.map_nil, List.forall_mem_cons] at same
  obtain ⟨mode, profile, plan, outcome, -⟩ := same
  simp only [ofSource, mode, profile, plan, outcome]

/-! ### Items of all domains -/

/-- The items of one domain among items of all domains, in order. -/
def Domain.select (d : Domain) {F : Domain → Type} (items : List ((d : Domain) × F d)) :
    List (F d) :=
  items.filterMap fun item => if own : item.1 = d then some (own ▸ item.2) else none

namespace Domain

variable {d other : Domain} {F : Domain → Type}

@[simp] theorem select_cons_self (item : F d) (items : List ((d : Domain) × F d)) :
    d.select (⟨d, item⟩ :: items) = item :: d.select items := by
  simp [select]

theorem select_cons_of_ne (apart : other ≠ d) (item : F other)
    (items : List ((d : Domain) × F d)) :
    d.select (⟨other, item⟩ :: items) = d.select items := by
  simp [select, apart]

end Domain

/-! ### Harnesses -/

/-- A report to one of the domains. -/
abbrev Report :=
  (d : Domain) × Option (Event d)

/-- The contexts of all domains on one disk. -/
structure Harness where
  contexts : (d : Domain) → Context d
  disk : Disk

namespace Harness

/-- The harness that a source configures, at the start of a run. -/
def ofSource (source : String → Option String) (disk : Disk) : Harness :=
  ⟨fun d => .ofSettings (.ofSource d source), disk⟩

/-- What a domain answers to a report. -/
def reply (harness : Harness) (report : Report) : Reply report.1 :=
  (harness.contexts report.1).hook harness.disk report.2

/-- The harness after a report to one of its domains. -/
def step (harness : Harness) (report : Report) : Harness :=
  ⟨Function.update harness.contexts report.1 (harness.reply report).context,
    (harness.reply report).disk⟩

/-- The harness after a row of reports. -/
def after (harness : Harness) (reports : List Report) : Harness :=
  reports.foldl step harness

/-- The replies to a row of reports, each with its domain. -/
def replies : Harness → List Report → List ((d : Domain) × Reply d)
  | _, [] => []
  | harness, report :: reports =>
    ⟨report.1, harness.reply report⟩ :: (harness.step report).replies reports

/-- No file that one domain writes is one that another reads or writes. -/
def Apart (harness : Harness) : Prop :=
  ∀ d other, d ≠ other → ∀ place, (harness.contexts d).settings.Writes harness.disk place →
    ¬ (harness.contexts other).settings.Writes harness.disk place ∧
      ¬ (harness.contexts other).settings.Reads harness.disk place

/-- A place that no other domain writes. -/
def OthersSpare (harness : Harness) (d : Domain) (place : Disk.Place) : Prop :=
  ∀ other, other ≠ d → ¬ (harness.contexts other).settings.Writes harness.disk place

/-- A harness that has come from another by reports and shows for one domain what a session of that
domain alone does: the same context, and the same files wherever no other domain writes. -/
structure Shows (start now : Harness) {d : Domain} (alone : Session d) : Prop where
  context : now.contexts d = alone.context
  near : alone.disk.AgreeOn (start.OthersSpare d) now.disk
  settings (other : Domain) :
    (now.contexts other).settings = (start.contexts other).settings
  shape : start.disk.AgreeOn (fun _ => False) now.disk

variable {d : Domain} {start now : Harness} {alone : Session d}

/-! ### One report -/

theorem settings_step (harness : Harness) (report : Report) (other : Domain) :
    ((harness.step report).contexts other).settings = (harness.contexts other).settings := by
  obtain ⟨d, report⟩ := report
  by_cases same : other = d
  · subst same
    simp only [step, Function.update_self]
    exact Context.settings_hook _ _ report
  · simp only [step, Function.update_of_ne same]

/-- A report changes only what its own domain writes. -/
theorem agreeOn_step (harness : Harness) (report : Report) :
    harness.disk.AgreeOn
      (fun place => ¬ (harness.contexts report.1).settings.Writes harness.disk place)
      (harness.step report).disk := by
  obtain ⟨d, _ | event⟩ := report
  · exact .refl harness.disk
  · exact (harness.contexts d).agreeOn_hook harness.disk event

theorem Shows.shape_step (h : start.Shows now alone) (report : Report) :
    start.disk.AgreeOn (fun _ => False) (now.step report).disk :=
  h.shape.trans ((now.agreeOn_step report).mono fun _ => False.elim)

/-- Another domain's report does not show. -/
theorem Shows.step_of_ne (h : start.Shows now alone) {other : Domain} (apart : other ≠ d)
    (report : Option (Event other)) : start.Shows (now.step ⟨other, report⟩) alone where
  context := by
    rw [← h.context]
    exact Function.update_of_ne apart.symm _ now.contexts
  near := by
    apply h.near.trans
    apply (now.agreeOn_step ⟨other, report⟩).mono
    intro place spares writes
    apply spares other apart
    rw [← h.settings other]
    exact (Settings.writes_iff h.shape place).2 writes
  settings := fun e => (now.settings_step ⟨other, report⟩ e).trans (h.settings e)
  shape := h.shape_step ⟨other, report⟩

/-- What a domain reads is spared by the others. -/
theorem Shows.othersSpare_of_reads (h : start.Shows now alone) (apart : start.Apart)
    {place : Disk.Place} (reads : alone.context.settings.Reads alone.disk place) :
    start.OthersSpare d place := by
  intro other different writes
  refine (apart other d different place writes).2 ?_
  rw [← h.settings d, h.context]
  exact (Settings.reads_iff h.shape place).2 ((Settings.reads_iff h.near place).1 reads)

/-- The domain's own report is answered as in the session alone. -/
theorem Shows.step_self (h : start.Shows now alone) (apart : start.Apart)
    (report : Option (Event d)) :
    (alone.reply report).seen = (now.reply ⟨d, report⟩).seen ∧
      start.Shows (now.step ⟨d, report⟩) (alone.turn (.report report)) := by
  have context := h.context
  cases report with
  | none =>
      refine ⟨rfl, ?_, h.near, fun e => (now.settings_step ⟨d, none⟩ e).trans (h.settings e),
        h.shape⟩
      exact (Function.update_self d _ now.contexts).trans context
  | some event =>
      obtain ⟨replied, same⟩ :=
        Context.hook_congr h.near (fun place => h.othersSpare_of_reads apart) event
      have answered : now.reply ⟨d, some event⟩ = alone.context.hook now.disk (some event) := by
        rw [← context]
        rfl
      refine ⟨?_, ?_, ?_, fun e => (now.settings_step ⟨d, some event⟩ e).trans (h.settings e),
        h.shape_step ⟨d, some event⟩⟩
      · rw [answered]
        exact Prod.ext replied.result replied.event
      · refine (Function.update_self d _ now.contexts).trans ?_
        rw [answered]
        exact same.symm
      · have disk : (now.step ⟨d, some event⟩).disk =
            (alone.context.hook now.disk (some event)).disk := congrArg Reply.disk answered
        rw [disk]
        exact replied.disk

/-! ### Rows of reports -/

/-- Whatever is reported to the others, a domain answers its own reports as it would alone, and the
harness goes on showing that. -/
theorem Shows.run (h : start.Shows now alone) (apart : start.Apart) (reports : List Report) :
    (d.select (now.replies reports)).map Reply.seen =
        (alone.replies ((d.select reports).map Turn.report)).map Reply.seen ∧
      start.Shows (now.after reports) (alone.after ((d.select reports).map Turn.report)) := by
  induction reports generalizing now alone with
  | nil => exact ⟨rfl, h⟩
  | cons first reports ih =>
      obtain ⟨other, report⟩ := first
      by_cases own : other = d
      · subst own
        obtain ⟨answer, next⟩ := h.step_self apart report
        obtain ⟨rest, shows⟩ := ih next
        rw [replies, Domain.select_cons_self, Domain.select_cons_self, List.map_cons,
          List.map_cons, Session.replies_report, List.map_cons, rest, answer]
        exact ⟨rfl, shows⟩
      · obtain ⟨rest, shows⟩ := ih (h.step_of_ne own report)
        rw [Domain.select_cons_of_ne own, replies, Domain.select_cons_of_ne own]
        exact ⟨rest, shows⟩

/-- The files of a domain are as in the session alone. -/
theorem Shows.read?_eq (h : start.Shows now alone) (apart : start.Apart) {path : String}
    (own : (start.contexts d).settings.target? = some path ∨
      (start.contexts d).settings.origin? = some path) :
    now.disk.read? path = alone.disk.read? path := by
  symm
  apply h.near.read?_eq
  intro place there other different writes
  have located : start.disk.locate path = some place := by
    calc
      start.disk.locate path = now.disk.locate path := h.shape.locate_eq path
      _ = alone.disk.locate path := (h.near.locate_eq path).symm
      _ = some place := there
  have lost := apart other d different place writes
  obtain ⟨rival, -, -, takes⟩ := writes
  rcases own with target | origin
  · exact lost.1 ⟨path, target, located, takes⟩
  · exact lost.2 ⟨path, origin, located⟩

end Harness

/-- Domains of which neither reads or writes a file that the other one writes each get from any row
of reports what their own reports alone would give them. -/
theorem Harness.domains_apart (source : String → Option String) (disk : Disk)
    (apart : (Harness.ofSource source disk).Apart) (reports : List Report) (d : Domain)
    (changed : String → Option String) (same : ∀ key ∈ d.keys, changed key = source key) :
    let together := Harness.ofSource source disk
    let alone : Session d := ⟨.ofSettings (.ofSource d changed), disk⟩
    let own := (d.select reports).map Turn.report
    (d.select (together.replies reports)).map Reply.seen = (alone.replies own).map Reply.seen ∧
    (together.after reports).contexts d = (alone.after own).context ∧
    ∀ path, (Settings.ofSource d source).target? = some path ∨
        (Settings.ofSource d source).origin? = some path →
      (together.after reports).disk.read? path = (alone.after own).disk.read? path := by
  intro together alone own
  have shows : together.Shows together alone := by
    refine ⟨?_, .refl disk, fun _ => rfl, .refl disk⟩
    exact congrArg Context.ofSettings (Settings.ofSource_congr same).symm
  obtain ⟨seen, after⟩ := shows.run apart reports
  exact ⟨seen, after.context, fun path => after.read?_eq apart⟩

/-- Memory accesses are struck while instructions are logged, in turns. The log is the one of the
instructions alone, configured from a source without a key for memory. -/
theorem Harness.domains_apart_log_and_outcome :
    ∃ (source changed : String → Option String) (disk : Disk) (add : Event .instruction)
      (access : Event .memory),
      let together := Harness.ofSource source disk
      let reports : List Report :=
        [⟨.memory, some access⟩, ⟨.instruction, some add⟩, ⟨.memory, some access⟩,
          ⟨.instruction, some add⟩]
      let alone : Session .instruction := ⟨.ofSettings (.ofSource .instruction changed), disk⟩
      together.Apart ∧
      (∀ key ∈ Domain.memory.keys, changed key = none) ∧
      ((together.after reports).contexts .memory).injections = 1 ∧
      (together.after reports).disk.read? "insn.log" =
        (alone.after (Turn.reports [add, add])).disk.read? "insn.log" ∧
      (together.after reports).disk.read? "insn.log" =
        some "1;ADD;4;0;1;3\n2;ADD;4;0;1;3\n".toUTF8 := by
  let source (key : String) : Option String :=
    [ ("SIMFI_INSN_MODE", "profile"), ("SIMFI_INSN_PROFILE_FILE", "insn.log"),
      ("SIMFI_MEM_MODE", "inject"), ("SIMFI_MEM_PLAN_FILE", "plan.txt"),
      ("SIMFI_MEM_OUTCOME_FILE", "outcome.txt") ].lookup key
  let changed (key : String) : Option String :=
    if key ∈ Domain.memory.keys then none else source key
  let disk : Disk := Disk.empty.put ⟨false, ["plan.txt"]⟩ (.file "1\n1 1 6 0 1 2 0 0\n".toUTF8)
  let add : Event .instruction := Instruction.Retirement.mk "ADD" 4 0 [3]
  let access : Event .memory := Memory.Access.mk #[6, 8] ⟨0, 1, 2⟩
  let together := Harness.ofSource source disk
  let file (d : Domain) : String := if d = .instruction then "insn.log" else "outcome.txt"
  have targets : ∀ d, (together.contexts d).settings.target? = some (file d) := by
    intro d
    cases d <;> decide +kernel
  have origins : ∀ d path, (together.contexts d).settings.origin? = some path →
      path = "plan.txt" := by
    intro d path origin
    cases d with
    | instruction =>
        have none : (together.contexts .instruction).settings.origin? = none := by decide +kernel
        cases none.symm.trans origin
    | memory =>
        have plan : (together.contexts .memory).settings.origin? = some "plan.txt" := by
          decide +kernel
        exact (Option.some.inj (plan.symm.trans origin)).symm
  have located : ∀ d, disk.locate (file d) = some ⟨false, [file d]⟩ := by
    intro d
    cases d <;> decide +kernel
  have planLocated : disk.locate "plan.txt" = some ⟨false, ["plan.txt"]⟩ := by decide +kernel
  have apart : together.Apart := by
    rintro d other different place ⟨path, target, there, -⟩
    obtain rfl := Option.some.inj ((targets d).symm.trans target)
    obtain rfl := Option.some.inj ((located d).symm.trans there)
    constructor
    · rintro ⟨rival, targetToo, thereToo, -⟩
      obtain rfl := Option.some.inj ((targets other).symm.trans targetToo)
      have names := (located other).symm.trans thereToo
      cases d with
      | instruction =>
          cases other with
          | instruction => exact different rfl
          | memory => simp [file] at names
      | memory =>
          cases other with
          | instruction => simp [file] at names
          | memory => exact different rfl
    · rintro ⟨plan, origin, thereToo⟩
      obtain rfl := origins other plan origin
      have names := planLocated.symm.trans thereToo
      cases d <;> simp [file] at names
  have same : ∀ key ∈ Domain.instruction.keys, changed key = source key := by
    intro key own
    exact if_neg (Domain.not_mem_keys (by decide) own)
  obtain ⟨-, -, files⟩ := domains_apart source disk apart
    [⟨.memory, some access⟩, ⟨.instruction, some add⟩, ⟨.memory, some access⟩,
      ⟨.instruction, some add⟩] .instruction changed same
  exact ⟨source, changed, disk, add, access, apart, fun key own => if_pos own, by decide +kernel,
    files "insn.log" (Or.inl (targets .instruction)), by decide +kernel⟩

end FaultReplay
