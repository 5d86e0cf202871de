import FaultReplay.Proofs.Field.Reading
import FaultReplay.Proofs.Plan.Refusals
import FaultReplay.Proofs.Plan.Soundness

/-!
# The grammar of plans

Which words are a plan, and of which faults, said without the reader. A record is a row of fields
with the fault they describe. A plan is a count and as many records for faults of different events,
or, for memory, one record alone. Exactly these words are read.
-/

namespace FaultReplay

open FaultReplay.Field (IsNumber spellings number_eq_ok_iff flag_eq_ok_iff)
open Text (words)

variable {d : Domain}

/-! ### Records -/

/-- The records of an instruction fault: four numbers and a label. -/
inductive Instruction.IsRecord : List String → Fault .instruction → Prop
  | intro {trigger mask expected core label : String} {n m x c : UInt64}
      (trigger_n : IsNumber n trigger.toList) (mask_m : IsNumber m mask.toList)
      (expected_x : IsNumber x expected.toList) (core_c : IsNumber c core.toList) :
      IsRecord [trigger, mask, expected, core, label]
        { trigger := n, identity := ⟨c, label⟩, mask := m, expected := x }

/-- The records of a memory fault: seven numbers and a flag, where what is flipped and what is
expected are bytes, and a second cell has a place of its own. -/
inductive Memory.IsRecord : List String → Fault .memory → Prop
  | intro {trigger mask expected offset access total multiCell secondary : String}
      {n m x o a t s : UInt64} {double : Bool}
      (trigger_n : IsNumber n trigger.toList) (mask_m : IsNumber m mask.toList)
      (expected_x : IsNumber x expected.toList) (offset_o : IsNumber o offset.toList)
      (access_a : IsNumber a access.toList) (total_t : IsNumber t total.toList)
      (multiCell_double : multiCell ∈ spellings double)
      (secondary_s : IsNumber s secondary.toList)
      (narrow_m : m ≤ 255) (narrow_x : x ≤ 255) (apart : double = true → s ≠ 0) :
      IsRecord [trigger, mask, expected, offset, access, total, multiCell, secondary]
        { trigger := n, identity := ⟨o, a, t⟩, mask := m, expected := x,
          secondary := some s, multiCell := double }

/-- The records of a fault. -/
def Fault.IsRecord : {d : Domain} → List String → Fault d → Prop
  | .instruction, record, fault => Instruction.IsRecord record fault
  | .memory, record, fault => Memory.IsRecord record fault

theorem Instruction.faultOfFields_eq_ok_iff {record : List String}
    {fault : Fault .instruction} :
    faultOfFields record = .ok fault ↔ IsRecord record fault := by
  constructor
  · intro h
    unfold faultOfFields at h
    split at h
    · obtain ⟨trigger, readTrigger, h⟩ := Except.exists_of_bind_eq_ok h
      obtain ⟨core, readCore, h⟩ := Except.exists_of_bind_eq_ok h
      obtain ⟨mask, readMask, h⟩ := Except.exists_of_bind_eq_ok h
      obtain ⟨expected, readExpected, h⟩ := Except.exists_of_bind_eq_ok h
      cases h
      exact .intro (number_eq_ok_iff.1 readTrigger) (number_eq_ok_iff.1 readMask)
        (number_eq_ok_iff.1 readExpected) (number_eq_ok_iff.1 readCore)
    · cases h
  · rintro ⟨trigger_n, mask_m, expected_x, core_c⟩
    simp only [faultOfFields, number_eq_ok_iff.2 trigger_n, number_eq_ok_iff.2 mask_m,
      number_eq_ok_iff.2 expected_x, number_eq_ok_iff.2 core_c, Except.ok_bind]
    rfl

theorem Memory.faultOfFields_eq_ok_iff {record : List String} {fault : Fault .memory} :
    faultOfFields record = .ok fault ↔ IsRecord record fault := by
  constructor
  · intro h
    simp only [faultOfFields] at h
    split at h
    · obtain ⟨trigger, readTrigger, h⟩ := Except.exists_of_bind_eq_ok h
      obtain ⟨offset, readOffset, h⟩ := Except.exists_of_bind_eq_ok h
      obtain ⟨access, readAccess, h⟩ := Except.exists_of_bind_eq_ok h
      obtain ⟨total, readTotal, h⟩ := Except.exists_of_bind_eq_ok h
      obtain ⟨mask, readMask, h⟩ := Except.exists_of_bind_eq_ok h
      obtain ⟨expected, readExpected, h⟩ := Except.exists_of_bind_eq_ok h
      obtain ⟨secondary, readSecondary, h⟩ := Except.exists_of_bind_eq_ok h
      obtain ⟨multiCell, readMultiCell, h⟩ := Except.exists_of_bind_eq_ok h
      split at h
      · cases h
      · rename_i fine
        cases h
        obtain ⟨narrowMask, narrowExpected, apart⟩ := faultProblem?_eq_none_iff.1 fine
        exact .intro (number_eq_ok_iff.1 readTrigger) (number_eq_ok_iff.1 readMask)
          (number_eq_ok_iff.1 readExpected) (number_eq_ok_iff.1 readOffset)
          (number_eq_ok_iff.1 readAccess) (number_eq_ok_iff.1 readTotal)
          (flag_eq_ok_iff.1 readMultiCell) (number_eq_ok_iff.1 readSecondary)
          narrowMask narrowExpected apart
    · cases h
  · rintro ⟨trigger_n, mask_m, expected_x, offset_o, access_a, total_t, multiCell_double,
      secondary_s, narrow_m, narrow_x, apart⟩
    simp only [faultOfFields, number_eq_ok_iff.2 trigger_n, number_eq_ok_iff.2 mask_m,
      number_eq_ok_iff.2 expected_x, number_eq_ok_iff.2 offset_o, number_eq_ok_iff.2 access_a,
      number_eq_ok_iff.2 total_t, number_eq_ok_iff.2 secondary_s,
      flag_eq_ok_iff.2 multiCell_double, Except.ok_bind]
    rw [faultProblem?_eq_none_iff.2 ⟨narrow_m, narrow_x, apart⟩]

namespace Fault

variable {record : List String} {fault : Fault d}

/-- The records of a fault are what it is read from. -/
theorem ofFields_eq_ok_iff : ofFields d record = .ok fault ↔ fault.IsRecord record := by
  cases d with
  | instruction => exact Instruction.faultOfFields_eq_ok_iff
  | memory => exact Memory.faultOfFields_eq_ok_iff

theorem IsRecord.length (h : fault.IsRecord record) : record.length = d.recordLength := by
  cases d with
  | instruction =>
      cases h
      rfl
  | memory =>
      cases h
      rfl

/-- A fault with a record is valid. -/
theorem IsRecord.valid (h : fault.IsRecord record) : fault.Valid := by
  cases d with
  | instruction =>
      cases h
      exact ⟨rfl, rfl⟩
  | memory =>
      obtain ⟨-, -, -, -, -, -, -, -, narrow_m, narrow_x, apart⟩ := h
      exact ⟨narrow_m, narrow_x, apart⟩

end Fault

namespace Plan

/-! ### Plans -/

/-- A count of at most three and as many records, of faults for different events. -/
inductive Counted : List String → List (Fault d) → Prop
  | intro {count : String} {n : UInt64} {records : List (List String)} {faults : List (Fault d)}
      (count_n : IsNumber n count.toList) (short : n.toNat ≤ 3)
      (many : records.length = n.toNat)
      (recorded : List.Forall₂ (fun record fault => fault.IsRecord record) records faults)
      (apart : faults.Pairwise fun one other =>
        ¬ (one.trigger = other.trigger ∧ one.identity = other.identity)) :
      Counted (count :: records.flatten) faults

/-- The words of a plan with these faults. -/
inductive Written : {d : Domain} → List String → List (Fault d) → Prop
  | bare {record : List String} {fault : Fault .memory} (recorded : fault.IsRecord record) :
      Written record [fault]
  | counted {d : Domain} {ws : List String} {faults : List (Fault d)}
      (counted : Counted ws faults) : Written ws faults

theorem length_flatten_of_recorded {records : List (List String)} {faults : List (Fault d)}
    (recorded : List.Forall₂ (fun record fault => fault.IsRecord record) records faults) :
    records.flatten.length = records.length * d.recordLength := by
  induction recorded with
  | nil => simp
  | cons first _ ih =>
      rw [List.flatten_cons, List.length_append, first.length, ih, List.length_cons]
      ring

theorem valid_of_recorded {records : List (List String)} {faults : List (Fault d)}
    (recorded : List.Forall₂ (fun record fault => fault.IsRecord record) records faults) :
    ∀ fault ∈ faults, fault.Valid := by
  induction recorded with
  | nil => simp
  | cons first _ ih => exact List.forall_mem_cons.2 ⟨first.valid, ih⟩

/-- From as many fields as so many records have, these records are read. -/
theorem readRecords_eq_ok_iff {n : Nat} {fields : List String} {faults : List (Fault d)}
    (exact : fields.length = n * d.recordLength) :
    readRecords d n fields = .ok faults ↔ ∃ records : List (List String),
      records.length = n ∧ records.flatten = fields ∧
        List.Forall₂ (fun record fault => fault.IsRecord record) records faults := by
  induction n generalizing fields faults with
  | zero =>
      have none : fields = [] := List.length_eq_zero_iff.1 (by simpa using exact)
      constructor
      · intro h
        cases h
        exact ⟨[], rfl, none.symm, .nil⟩
      · rintro ⟨records, many, -, recorded⟩
        cases List.length_eq_zero_iff.1 many
        cases recorded
        rfl
  | succ n ih =>
      rw [readRecords]
      constructor
      · intro h
        obtain ⟨first, read, h⟩ := Except.exists_of_bind_eq_ok h
        obtain ⟨rest, more, h⟩ := Except.exists_of_bind_eq_ok h
        cases h
        have left : (fields.drop d.recordLength).length = n * d.recordLength := by
          rw [List.length_drop, exact, Nat.succ_mul, Nat.add_sub_cancel]
        obtain ⟨records, many, same, recorded⟩ := (ih left).1 more
        refine ⟨fields.take d.recordLength :: records, by simp [many], ?_, ?_⟩
        · rw [List.flatten_cons, same, List.take_append_drop]
        · exact .cons (Fault.ofFields_eq_ok_iff.1 read) recorded
      · rintro ⟨records, many, rfl, recorded⟩
        cases recorded with
        | nil => cases many
        | @cons record fault records faults first recorded =>
            have many : records.length = n := Nat.succ.inj many
            have left : records.flatten.length = n * d.recordLength := by
              rw [length_flatten_of_recorded recorded, many]
            have front : (record ++ records.flatten).take d.recordLength = record := by
              rw [← first.length, List.take_left]
            have back : (record ++ records.flatten).drop d.recordLength = records.flatten := by
              rw [← first.length, List.drop_left]
            rw [List.flatten_cons, front, back, Fault.ofFields_eq_ok_iff.2 first,
              (ih left).2 ⟨records, many, rfl, recorded⟩]
            rfl

/-- What is read after a count is the records it counts. -/
theorem exists_ofCountedWords_iff {ws : List String} {faults : List (Fault d)} :
    (∃ plan, ofCountedWords d ws = .ok plan ∧ plan.faults = faults) ↔ Counted ws faults := by
  constructor
  · rintro ⟨plan, h, rfl⟩
    cases ws with
    | nil => cases h
    | cons count fields =>
        rw [ofCountedWords] at h
        obtain ⟨n, readCount, h⟩ := Except.exists_of_bind_eq_ok h
        split at h
        · cases h
        rename_i short
        split at h
        · cases h
        rename_i exact
        obtain ⟨faults, readFaults, accepted⟩ := Except.exists_of_bind_eq_ok h
        obtain ⟨records, many, rfl, recorded⟩ :=
          (readRecords_eq_ok_iff (not_not.1 exact)).1 readFaults
        obtain rfl := faults_of_ofFaults accepted
        exact .intro (number_eq_ok_iff.1 readCount) (not_lt.1 short) many recorded
          plan.sound.apart
  · rintro ⟨count_n, short, many, recorded, apart⟩
    rename_i count n records
    have exact : records.flatten.length = n.toNat * d.recordLength := by
      rw [length_flatten_of_recorded recorded, many]
    have sound : Sound faults :=
      { short := by rwa [← recorded.length_eq, many]
        apart := apart
        applicable := fun fault mem =>
          Fault.valid_iff_applicable.1 (valid_of_recorded recorded fault mem) }
    obtain ⟨plan, accepted, same⟩ := sound.exists_plan
    refine ⟨plan, ?_, same⟩
    have long : ¬ capacity < n.toNat := not_lt.2 short
    rw [ofCountedWords, number_eq_ok_iff.2 count_n, Except.ok_bind, if_neg long,
      if_neg (not_not.2 exact), (readRecords_eq_ok_iff exact).2 ⟨records, many, rfl, recorded⟩,
      Except.ok_bind, accepted]

/-- A count with records is never as long as one record. -/
theorem Counted.length_ne {ws : List String} {faults : List (Fault d)}
    (h : Counted ws faults) : ws.length ≠ d.recordLength := by
  obtain ⟨count_n, short, many, recorded, apart⟩ := h
  rename_i records
  rw [List.length_cons, length_flatten_of_recorded recorded]
  have long : 1 < d.recordLength := by cases d <;> decide
  cases records with
  | nil => simpa using long.ne
  | cons record records =>
      rw [List.length_cons, Nat.succ_mul]
      omega

theorem exists_ofWords_iff {ws : List String} {faults : List (Fault d)} :
    (∃ plan, ofWords d ws = .ok plan ∧ plan.faults = faults) ↔ Written ws faults := by
  unfold ofWords
  split
  · rename_i bare
    constructor
    · rintro ⟨plan, h, rfl⟩
      obtain ⟨fault, read, h⟩ := Except.exists_of_bind_eq_ok h
      rw [faults_of_ofFaults h]
      cases d with
      | instruction => cases bare.1
      | memory => exact .bare (Fault.ofFields_eq_ok_iff.1 read)
    · intro h
      cases h with
      | @bare record fault recorded =>
          have sound : Sound [fault] :=
            { short := by simp
              apart := List.pairwise_singleton _ _
              applicable := by simpa using Fault.valid_iff_applicable.1 recorded.valid }
          obtain ⟨plan, accepted, same⟩ := sound.exists_plan
          refine ⟨plan, ?_, same⟩
          rw [Fault.ofFields_eq_ok_iff.2 recorded, Except.ok_bind, accepted]
      | counted counted => exact (counted.length_ne bare.2).elim
  · rename_i unbare
    rw [exists_ofCountedWords_iff]
    constructor
    · exact .counted
    · intro h
      cases h with
      | bare recorded => exact (unbare ⟨rfl, recorded.length⟩).elim
      | counted counted => exact counted

/-- A text is read as a plan exactly if its words are a record alone or a count with as many
records, and otherwise it is refused as a matter of configuration. -/
theorem parse_reads_grammar (d : Domain) (text : String) :
    (∀ faults : List (Fault d),
      (∃ plan, parse d text = .ok plan ∧ plan.faults = faults) ↔
        Written (words text) faults) ∧
    ∀ e, parse d text = .error e → e.kind = .configuration ∧ e.fromFile = false := by
  constructor
  · intro faults
    exact exists_ofWords_iff
  · intro e refused
    exact (parse_failsWith text e refused).kind

/-- Two instruction faults with a number in base sixteen and one after a plus sign, and a memory
plan of a count that no record follows. -/
theorem parse_reads_grammar_signed :
    (∃ plan, parse .instruction "2\n0x7 +16 3 0 ADD\n8 1 0XfF 0 ADD" = .ok plan ∧
      Written ["2", "0x7", "+16", "3", "0", "ADD", "8", "1", "0XfF", "0", "ADD"] plan.faults) ∧
    ∃ e, parse .memory "+1" = .error e ∧ e.kind = .configuration ∧ e.fromFile = false := by
  constructor
  · let first : Fault .instruction :=
      { trigger := 7, identity := ⟨0, "ADD"⟩, mask := 16, expected := 3 }
    let second : Fault .instruction :=
      { trigger := 8, identity := ⟨0, "ADD"⟩, mask := 1, expected := 255 }
    let plan : Plan .instruction := ⟨[first, second], by decide, by decide, by decide⟩
    let text := "2\n0x7 +16 3 0 ADD\n8 1 0XfF 0 ADD"
    have read : parse .instruction text = .ok plan := by decide +kernel
    have cut : words text =
        ["2", "0x7", "+16", "3", "0", "ADD", "8", "1", "0XfF", "0", "ADD"] := by decide +kernel
    refine ⟨plan, read, ?_⟩
    rw [← cut]
    exact ((parse_reads_grammar .instruction text).1 _).1 ⟨plan, read, rfl⟩
  · have refused : parse .memory "+1" = .error (.planFieldCount 1 8 0) := by decide +kernel
    exact ⟨_, refused, (parse_reads_grammar .memory "+1").2 _ refused⟩

end Plan

end FaultReplay
