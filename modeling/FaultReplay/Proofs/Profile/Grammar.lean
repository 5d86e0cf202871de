import FaultReplay.Profile.Log
import FaultReplay.Proofs.Field.Reading

/-!
# The grammar of log lines

Which rows of fields are an entry, said without the reader. Every field has its place, and the count
of registers says how many of the fields after it are values; older logs go on with slots that hold
nothing, and these are not read.
-/

namespace FaultReplay

open FaultReplay.Field (IsNumber number_eq_ok_iff byte_eq_ok_iff mapM_number_eq_ok_iff)

/-- The rows of an instruction entry: four numbers and a label, of which the last number counts the
values that follow, and any slots after these. -/
inductive Instruction.IsRow : List String → Entry → Prop
  | intro {sequence label size core count : String} {values slots : List String} {n s c k : UInt64}
      {registers : List UInt64}
      (sequence_n : IsNumber n sequence.toList) (size_s : IsNumber s size.toList)
      (core_c : IsNumber c core.toList) (count_k : IsNumber k count.toList)
      (many : values.length = k.toNat)
      (values_registers :
        List.Forall₂ (fun value register => IsNumber register value.toList) values registers) :
      IsRow (sequence :: label :: size :: core :: count :: (values ++ slots))
        { sequence := n, identity := ⟨c, label⟩, size := s, registers }

/-- The rows of a memory entry: six numbers, of which the second and the third are bytes. -/
inductive Memory.IsRow : List String → Entry → Prop
  | intro {sequence byte next offset access total : String} {n o a t : UInt64} {b x : UInt8}
      (sequence_n : IsNumber n sequence.toList) (byte_b : IsNumber b.toUInt64 byte.toList)
      (next_x : IsNumber x.toUInt64 next.toList) (offset_o : IsNumber o offset.toList)
      (access_a : IsNumber a access.toList) (total_t : IsNumber t total.toList) :
      IsRow [sequence, byte, next, offset, access, total]
        { sequence := n, byte := b, next := x, identity := ⟨o, a, t⟩ }

/-- The rows of an entry. -/
def Entry.IsRow : {d : Domain} → List String → Entry d → Prop
  | .instruction, row, entry => Instruction.IsRow row entry
  | .memory, row, entry => Memory.IsRow row entry

theorem Instruction.Entry.parse_eq_ok_iff {line : String} {entry : Entry} :
    parse line = .ok entry ↔ IsRow (Profile.fields line) entry := by
  unfold parse
  generalize Profile.fields line = row
  constructor
  · intro h
    split at h
    · rename_i values
      obtain ⟨declared, readDeclared, h⟩ := Except.exists_of_bind_eq_ok h
      split at h
      · cases h
      rename_i enough
      obtain ⟨sequence, readSequence, h⟩ := Except.exists_of_bind_eq_ok h
      obtain ⟨size, readSize, h⟩ := Except.exists_of_bind_eq_ok h
      obtain ⟨core, readCore, h⟩ := Except.exists_of_bind_eq_ok h
      obtain ⟨registers, readRegisters, h⟩ := Except.exists_of_bind_eq_ok h
      cases h
      rw [← List.take_append_drop declared.toNat values]
      exact .intro (number_eq_ok_iff.1 readSequence) (number_eq_ok_iff.1 readSize)
        (number_eq_ok_iff.1 readCore) (number_eq_ok_iff.1 readDeclared)
        (List.length_take_of_le (not_lt.1 enough)) (mapM_number_eq_ok_iff.1 readRegisters)
    · cases h
  · intro h
    obtain ⟨sequence_n, size_s, core_c, count_k, many, values_registers⟩ := h
    rename_i values slots n s c k registers
    have enough : ¬ (values ++ slots).length < k.toNat := by
      rw [List.length_append, many]
      exact not_lt.2 (Nat.le_add_right _ _)
    have declared : (values ++ slots).take k.toNat = values := by
      rw [← many, List.take_left]
    simp only [number_eq_ok_iff.2 count_k, if_neg enough, declared, number_eq_ok_iff.2 sequence_n,
      number_eq_ok_iff.2 size_s, number_eq_ok_iff.2 core_c,
      mapM_number_eq_ok_iff.2 values_registers, Except.ok_bind]
    rfl

theorem Memory.Entry.parse_eq_ok_iff {line : String} {entry : Entry} :
    parse line = .ok entry ↔ IsRow (Profile.fields line) entry := by
  unfold parse
  generalize Profile.fields line = row
  constructor
  · intro h
    split at h
    · obtain ⟨sequence, readSequence, h⟩ := Except.exists_of_bind_eq_ok h
      obtain ⟨byte, readByte, h⟩ := Except.exists_of_bind_eq_ok h
      obtain ⟨next, readNext, h⟩ := Except.exists_of_bind_eq_ok h
      obtain ⟨offset, readOffset, h⟩ := Except.exists_of_bind_eq_ok h
      obtain ⟨access, readAccess, h⟩ := Except.exists_of_bind_eq_ok h
      obtain ⟨total, readTotal, h⟩ := Except.exists_of_bind_eq_ok h
      cases h
      exact .intro (number_eq_ok_iff.1 readSequence) (byte_eq_ok_iff.1 readByte)
        (byte_eq_ok_iff.1 readNext) (number_eq_ok_iff.1 readOffset)
        (number_eq_ok_iff.1 readAccess) (number_eq_ok_iff.1 readTotal)
    · cases h
  · intro h
    obtain ⟨sequence_n, byte_b, next_x, offset_o, access_a, total_t⟩ := h
    simp only [number_eq_ok_iff.2 sequence_n, byte_eq_ok_iff.2 byte_b, byte_eq_ok_iff.2 next_x,
      number_eq_ok_iff.2 offset_o, number_eq_ok_iff.2 access_a, number_eq_ok_iff.2 total_t,
      Except.ok_bind]
    rfl

variable {d : Domain} {line : String} {row : List String} {entry : Entry d}

/-- A line is read as an entry exactly if its fields are a row of that entry. -/
theorem Entry.parse_eq_ok_iff :
    Entry.parse d line = .ok entry ↔ entry.IsRow (Profile.fields line) := by
  cases d with
  | instruction => exact Instruction.Entry.parse_eq_ok_iff
  | memory => exact Memory.Entry.parse_eq_ok_iff

/-- The label of an entry stands in its row as it is. -/
theorem Instruction.IsRow.label_mem {entry : Entry} (h : IsRow row entry) :
    entry.identity.label ∈ row := by
  cases h
  exact List.mem_cons_of_mem _ List.mem_cons_self

/-- An entry has no more registers than 64 bits can count. -/
theorem Instruction.IsRow.countable {entry : Entry} (h : IsRow row entry) :
    entry.registers.length < UInt64.size := by
  obtain ⟨-, -, -, -, many, values_registers⟩ := h
  rename_i k _
  rw [← values_registers.length_eq, many]
  exact k.toNat_lt

end FaultReplay
