import FaultReplay.Proofs.Plan.Grammar

/-!
# Plans without a count

A memory plan may be one record alone. The text is told from a counted one by the number of its
words only, and that is enough: a record alone is read as after the count 1, with the same plan or
the same refusal, and no text can be read both ways.
-/

namespace FaultReplay.Plan

open Text (isBlank words words_append_of_blank)

variable {d : Domain} {text counted one name : String} {record : List String} {plan : Plan d}

/-! ### The two readings -/

/-- Reads the words of one record as a plan. -/
def ofRecord (d : Domain) (record : List String) : Except Error (Plan d) := do
  let fault ← Fault.ofFields d record
  ofFaults [fault]

/-- A plan is read as one record or after a count, as its number of words has it. -/
theorem ofWords_eq (d : Domain) (ws : List String) :
    ofWords d ws =
      if d.readsBareRecord = true ∧ ws.length = d.recordLength then ofRecord d ws
      else ofCountedWords d ws := rfl

theorem length_of_ofRecord (h : ofRecord d record = .ok plan) : record.length = d.recordLength := by
  obtain ⟨fault, read, -⟩ := Except.exists_of_bind_eq_ok h
  exact (Fault.ofFields_eq_ok_iff.1 read).length

theorem length_of_ofCountedWords {ws : List String} (h : ofCountedWords d ws = .ok plan) :
    ws.length ≠ d.recordLength :=
  (exists_ofCountedWords_iff.1 ⟨plan, h, rfl⟩).length_ne

/-- A single record is read from as many fields as it has. -/
theorem readRecords_one (single : record.length = d.recordLength) :
    readRecords d 1 record = (Fault.ofFields d record).map fun fault => [fault] := by
  have all : record.take d.recordLength = record := List.take_of_length_le single.le
  rw [readRecords, all]
  cases Fault.ofFields d record <;> rfl

/-- After the count 1 a record is read as it is alone, and refused for the same cause. -/
theorem ofCountedWords_one (spelled : Field.number name one = .ok 1)
    (single : record.length = d.recordLength) :
    ofCountedWords d (one :: record) = ofRecord d record := by
  have count : Field.number "fault count" one = .ok 1 :=
    Field.number_eq_ok_iff.2 (Field.number_eq_ok_iff.1 spelled)
  have few : ¬ capacity < (1 : UInt64).toNat := by decide
  have exact : ¬ record.length ≠ (1 : UInt64).toNat * d.recordLength := by
    simpa using single
  rw [ofCountedWords, count, Except.ok_bind, if_neg few, if_neg exact, ofRecord]
  change (readRecords d 1 record >>= fun faults => ofFaults faults) = _
  rw [readRecords_one single]
  cases Fault.ofFields d record <;> rfl

/-! ### Memory plans -/

theorem parse_of_length (single : (words text).length = 8) :
    parse .memory text = ofRecord .memory (words text) := by
  rw [parse, ofWords_eq, if_pos ⟨rfl, single⟩]

theorem parse_of_length_ne (other : (words text).length ≠ 8) :
    parse .memory text = ofCountedWords .memory (words text) := by
  rw [parse, ofWords_eq, if_neg fun bare => other bare.2]

theorem parse_counted (single : (words text).length = 8)
    (spelled : Field.number name one = .ok 1) (follows : words counted = one :: words text) :
    parse .memory counted = parse .memory text := by
  have longer : (words counted).length ≠ 8 := by
    rw [follows, List.length_cons, single]
    decide
  calc
    parse .memory counted = ofCountedWords .memory (words counted) := parse_of_length_ne longer
    _ = ofCountedWords .memory (one :: words text) := by rw [follows]
    _ = ofRecord .memory (words text) := ofCountedWords_one spelled single
    _ = parse .memory text := (parse_of_length single).symm

/-- A text is a memory plan exactly if one of the two readings accepts it, and then as that plan. -/
theorem parse_eq_ok_iff {plan : Plan .memory} :
    parse .memory text = .ok plan ↔
      ofRecord .memory (words text) = .ok plan ∨
        ofCountedWords .memory (words text) = .ok plan := by
  by_cases single : (words text).length = 8
  · rw [parse_of_length single]
    exact (or_iff_left fun read => length_of_ofCountedWords read single).symm
  · rw [parse_of_length_ne single]
    exact (or_iff_right fun read => single (length_of_ofRecord read)).symm

/-- A text of eight words is read as the text that begins with a spelling of 1 and goes on with
them, and no text is accepted in both forms. -/
theorem bare_and_counted_agree :
    (∀ text counted one name : String, (words text).length = 8 →
      Field.number name one = .ok 1 → words counted = one :: words text →
      parse .memory counted = parse .memory text) ∧
    (∀ text one name gap : String, (words text).length = 8 →
      Field.number name one = .ok 1 → gap ≠ "" → (∀ c ∈ gap.toList, isBlank c = true) →
      parse .memory (one ++ gap ++ text) = parse .memory text) ∧
    ∀ text : String,
      (¬ ∃ bare counted, ofRecord .memory (words text) = .ok bare ∧
        ofCountedWords .memory (words text) = .ok counted) ∧
      ∀ plan, parse .memory text = .ok plan ↔
        ofRecord .memory (words text) = .ok plan ∨
          ofCountedWords .memory (words text) = .ok plan := by
  refine ⟨fun text counted one name => parse_counted, ?_, fun text => ⟨?_, ?_⟩⟩
  · intro text one name gap single spelled apart blank
    have word : Text.IsWord one := (Field.number_eq_ok_iff.1 spelled).isWord
    exact parse_counted single spelled (words_append_of_blank word apart blank text)
  · rintro ⟨bare, counted, alone, many⟩
    exact length_of_ofCountedWords many (length_of_ofRecord alone)
  · exact fun plan => parse_eq_ok_iff

/-- A record with two bad fields is refused for the first of them, alone and after the count 1 in
base sixteen. -/
theorem bare_and_counted_agree_refused :
    (parse .memory "12 0x80 1f 64 4 1024 yes 0" =
        .error (.badNumber "expected memory value" "1f" .invalidDigit) ∧
      parse .memory "0x+1\t\n12 0x80 1f 64 4 1024 yes 0" =
        .error (.badNumber "expected memory value" "1f" .invalidDigit)) ∧
    ∃ plan, parse .memory "12 128 170 64 4 1024 0 0" = .ok plan ∧
      parse .memory "\n+01\n12 128 170 64 4 1024 0 0\n" = .ok plan := by
  constructor
  · have refused : parse .memory "12 0x80 1f 64 4 1024 yes 0" =
        .error (.badNumber "expected memory value" "1f" .invalidDigit) := by decide +kernel
    refine ⟨refused, ?_⟩
    exact (bare_and_counted_agree.2.1 "12 0x80 1f 64 4 1024 yes 0" "0x+1" "fault count" "\t\n"
      (by decide +kernel) (by decide +kernel) (by decide)
      (List.all_eq_true.1 (by decide))).trans refused
  · let fault : Fault .memory :=
      { trigger := 12, identity := ⟨64, 4, 1024⟩, mask := 128, expected := 170,
        secondary := some 0 }
    let plan : Plan .memory := ⟨[fault], by decide, by decide, by decide⟩
    have read : parse .memory "12 128 170 64 4 1024 0 0" = .ok plan := by decide +kernel
    refine ⟨plan, read, ?_⟩
    exact (bare_and_counted_agree.1 "12 128 170 64 4 1024 0 0"
      "\n+01\n12 128 170 64 4 1024 0 0\n" "+01" "fault count" (by decide +kernel)
      (by decide +kernel) (by decide +kernel)).trans read

end FaultReplay.Plan
