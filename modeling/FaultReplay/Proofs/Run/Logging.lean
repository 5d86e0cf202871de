import FaultReplay.Proofs.Profile.Reading
import FaultReplay.Proofs.Run.Numbering
import FaultReplay.Proofs.Run.Profiling

/-!
# The log that a run leaves

A run that profiles adds one line to its log for every event, with the number of the event and the
event's own data, and reports without an event leave no trace in it. What is added does not depend
on what was there before, and it can be read back wherever no label has a semicolon or a line feed.
-/

namespace FaultReplay

variable {d : Domain}

/-! ### What an entry says -/

/-- A byte seen at a position of a region: the one that is there, 0 where the region or the range of
64 bits has ended. -/
def Memory.Sees (region : Array UInt8) (position : Nat) (byte : UInt8) : Prop :=
  (∀ inside : position < region.size, position < UInt64.size → byte = region[position]) ∧
    (region.size ≤ position ∨ UInt64.size ≤ position → byte = 0)

/-- An entry with the number and the data of an event. -/
def Entry.Describes : {d : Domain} → Entry d → Nat → Event d → Prop
  | .instruction, entry, number, retired =>
    (Instruction.Entry.sequence entry).toNat = number ∧
      (Instruction.Entry.identity entry).core = Instruction.Retirement.core retired ∧
      (Instruction.Entry.identity entry).label = Instruction.Retirement.label retired ∧
      Instruction.Entry.size entry = Instruction.Retirement.size retired ∧
      Instruction.Entry.registers entry = Instruction.Retirement.registers retired
  | .memory, entry, number, access =>
    let region := Memory.Access.region access
    let identity := Memory.Access.identity access
    (Memory.Entry.sequence entry).toNat = number ∧ Memory.Entry.identity entry = identity ∧
      Memory.Sees region identity.offset.toNat (Memory.Entry.byte entry) ∧
      Memory.Sees region (identity.offset.toNat + 1) (Memory.Entry.next entry)

theorem Memory.sees_byteAt (region : Array UInt8) (position : Nat) :
    Sees region position
      (if position < UInt64.size then Entry.byteAt region position else 0) := by
  constructor
  · intro inside short
    simp [short, Entry.byteAt, inside]
  · rintro (outside | long)
    · simp [Entry.byteAt, outside]
    · exact if_neg (Nat.not_lt.2 long)

theorem Entry.describes_observe {number : Nat} (short : (UInt64.ofNat number).toNat = number)
    (event : Event d) : (observe (UInt64.ofNat number) event).Describes number event := by
  cases d with
  | instruction => exact ⟨short, rfl, rfl, rfl, rfl⟩
  | memory =>
      refine ⟨short, rfl, ?_, Memory.sees_byteAt _ _⟩
      have first := Memory.sees_byteAt (Memory.Access.region event)
        (Memory.Access.identity event).offset.toNat
      rwa [if_pos (UInt64.toNat_lt _)] at first

theorem Entry.describes_observed {events : List (Event d)} (short : events.length < UInt64.size) :
    List.Forall₂ (fun entry (event, number) => Describes entry number event)
      (observed 0 events) (events.zipIdx 1) := by
  rw [observed, List.forall₂_map_left_iff, List.forall₂_same]
  rintro ⟨event, number⟩ place
  exact describes_observe (Event.toNat_number short place) event

/-- The events whose labels have none of the characters that end a field or a line. -/
def Event.Delimited : {d : Domain} → Event d → Prop
  | .instruction, retired =>
    let label := (Instruction.Retirement.label retired).toList
    ';' ∉ label ∧ '\n' ∉ label
  | .memory, _ => True

/-- The events whose registers can be counted in 64 bits. -/
def Event.Countable : {d : Domain} → Event d → Prop
  | .instruction, retired => (Instruction.Retirement.registers retired).length < UInt64.size
  | .memory, _ => True

theorem Entry.legible_observe_iff {event : Event d} (countable : event.Countable)
    (number : UInt64) : (observe number event).Legible ↔ event.Delimited := by
  cases d with
  | memory => exact Iff.rfl
  | instruction =>
      constructor
      · rintro ⟨field, line, -⟩
        exact ⟨field, line⟩
      · rintro ⟨field, line⟩
        exact ⟨field, line, countable⟩

theorem Entry.legible_observed_iff {events : List (Event d)}
    (countable : ∀ event ∈ events, event.Countable) (n : Nat) :
    (∀ entry ∈ observed n events, entry.Legible) ↔ ∀ event ∈ events, event.Delimited := by
  induction events generalizing n with
  | nil => simp [observed]
  | cons event events ih =>
      have rest := ih (fun other mem => countable other (List.mem_cons_of_mem _ mem)) (n + 1)
      rw [observed_cons, List.forall_mem_cons, List.forall_mem_cons, rest,
        legible_observe_iff (countable event List.mem_cons_self)]

/-! ### Runs of reports -/

namespace Session

theorem filter_matters_reports (calls : List (Option (Event d))) :
    (calls.map Turn.report).filter Turn.matters =
      Turn.reports (Turn.events (calls.map Turn.report)) := by
  induction calls with
  | nil => rfl
  | cons call calls ih => cases call <;> simp [List.filter_cons, ih]

/-- Reports without an event may be left out of a run. -/
theorem after_reports (session : Session d) (calls : List (Option (Event d))) :
    session.after (calls.map Turn.report) =
      session.after (Turn.reports (Turn.events (calls.map Turn.report))) := by
  rw [← filter_matters_reports, after_filter_matters]

end Session

/-- A profiling run adds to the log the entries of its events, each with the number of its place,
and exactly these are read back if and only if no label has a semicolon or a line feed. -/
theorem Session.profiled_log (settings : Settings) (cell : PlanCell d)
    (profiles : settings.resolveMode = .ok .profile) (log : String)
    (logAt : settings.profilePath = some log) (calls : List (Option (Event d)))
    (short : calls.length < UInt64.size) :
    let run := calls.map Turn.report
    let left (disk : Disk) : Disk := (Session.after ⟨{ settings, cell }, disk⟩ run).disk
    ∃ entries : List (Entry d),
      List.Forall₂ (fun entry (event, number) => Entry.Describes entry number event) entries
        ((Turn.events run).zipIdx 1) ∧
      (∀ disk : Disk, disk.CanWrite log →
        (left disk).contents log = disk.contents log ++ (Profile.text entries).toUTF8) ∧
      ∀ disk : Disk, disk.IsVacant log → Turn.events run ≠ [] →
        (∀ event ∈ Turn.events run, event.Countable) →
        (Profile.load d (left disk) log = .ok entries ↔
          ∀ event ∈ Turn.events run, event.Delimited) := by
  intro run left
  have few : (Turn.events run).length < UInt64.size := by
    have fewer := List.length_filterMap_le Turn.event? run
    rw [List.length_map] at fewer
    exact Nat.lt_of_le_of_lt fewer short
  have profiling (disk : Disk) (writable : disk.CanWrite log) :
      Profiling (⟨{ settings, cell }, disk⟩ : Session d) log 0 :=
    ⟨profiles, logAt, writable, rfl⟩
  refine ⟨Entry.observed 0 (Turn.events run), Entry.describes_observed few, ?_, ?_⟩
  · intro disk writable
    simp only [left, run, after_reports]
    exact (profiling disk writable).contents_after _
  · intro disk vacant nonempty countable
    have text : (left disk).readText? log =
        some (Profile.text (Entry.observed 0 (Turn.events run))) := by
      simp only [left, run, after_reports]
      exact (profiling disk vacant.canWrite).readText?_after vacant.contents_eq nonempty
    rw [Profile.load, text, Profile.ofFile, Profile.parse_text_eq_ok_iff,
      Entry.legible_observed_iff countable]

/-- A label with a blank comes back from a fresh log, one with a semicolon does not. -/
theorem Session.profiled_log_labels :
    ∃ (start : Session .instruction) (load jump : Event .instruction)
      (read lost : List (Entry .instruction)),
      load = Instruction.Retirement.mk "p lw" 4 0 [3] ∧
      jump = Instruction.Retirement.mk "c;j" 2 0 [] ∧
      (start.after [.report none, .report (some load)]).disk.contents "log.txt" =
        "1;p lw;4;0;1;3\n".toUTF8 ∧
      List.Forall₂ (fun entry (event, number) => Entry.Describes entry number event) read
        [(load, 1)] ∧
      Profile.load .instruction (start.after [.report none, .report (some load)]).disk "log.txt" =
        .ok read ∧
      List.Forall₂ (fun entry (event, number) => Entry.Describes entry number event) lost
        [(jump, 1)] ∧
      Profile.load .instruction (start.after [.report (some jump), .report none]).disk "log.txt" ≠
        .ok lost := by
  let load : Event .instruction := Instruction.Retirement.mk "p lw" 4 0 [3]
  let jump : Event .instruction := Instruction.Retirement.mk "c;j" 2 0 []
  let settings : Settings := { mode := some "profile", profilePath := some "log.txt" }
  have vacant : Disk.empty.IsVacant "log.txt" :=
    ⟨⟨false, ["log.txt"]⟩, by decide +kernel, by decide⟩
  have profiles : settings.resolveMode = .ok .profile := by decide +kernel
  obtain ⟨read, described, -, reads⟩ :=
    profiled_log settings {} profiles "log.txt" rfl [none, some load] (by decide)
  obtain ⟨lost, named, -, loses⟩ :=
    profiled_log settings {} profiles "log.txt" rfl [some jump, none] (by decide)
  have countable (event : Event .instruction) (two : event = load ∨ event = jump) :
      event.Countable := by
    rcases two with rfl | rfl
    · exact (by decide : [(3 : UInt64)].length < UInt64.size)
    · exact (by decide : ([] : List UInt64).length < UInt64.size)
  refine ⟨⟨.ofSettings settings, .empty⟩, load, jump, read, lost, rfl, rfl, by decide +kernel,
    described, ?_, named, ?_⟩
  · refine (reads .empty vacant (List.cons_ne_nil _ _) fun event mem => ?_).2 fun event mem => ?_
    · exact countable event (Or.inl (List.mem_singleton.1 mem))
    · obtain rfl := List.mem_singleton.1 mem
      exact ⟨by decide, by decide⟩
  · intro back
    have whole := (loses .empty vacant (List.cons_ne_nil _ _) fun event mem =>
      countable event (Or.inr (List.mem_singleton.1 mem))).1 back jump (List.mem_singleton.2 rfl)
    exact absurd whole.1 (by decide)

end FaultReplay
