import FaultReplay.Proofs.Profile.Grammar
import FaultReplay.Proofs.Profile.Line

/-!
# Written entries of a log

An entry is read back from its line, and the entries of a log from its text, as long as no label
holds the semicolon or the line feed that mark the ends of fields and lines.
-/

namespace FaultReplay

open FaultReplay.Field (IsNumber number_eq_ok_iff byte_eq_ok_iff mapM_number_eq_ok_iff)
open Numeral (decimal)
open Text (IsWord isWord_decimal not_mem_decimal)

/-! ### Entries of instructions -/

namespace Instruction.Entry

/-- The fields of an entry's line. -/
def columns (entry : Entry) : List String :=
  decimal entry.sequence.toNat :: entry.identity.label :: decimal entry.size.toNat ::
    decimal entry.identity.core.toNat :: decimal entry.registers.length ::
    entry.registers.map fun value => decimal value.toNat

theorem render_eq (entry : Entry) : entry.render = Profile.line entry.columns := rfl

theorem endInWord_columns (entry : Entry) : Profile.EndInWord entry.columns := by
  have values : ∀ field ∈ decimal entry.registers.length ::
      entry.registers.map (fun value => decimal value.toNat), IsWord field := by
    intro field mem
    rcases List.mem_cons.1 mem with rfl | mem
    · exact isWord_decimal _
    · obtain ⟨value, -, rfl⟩ := List.mem_map.1 mem
      exact isWord_decimal _
  have ending := Profile.endInWord_of_forall (by simp) values
  exact Profile.endInWord_cons (Profile.endInWord_cons (Profile.endInWord_cons
    (Profile.endInWord_cons ending _) _) _) _

/-- A character that is no digit can stand only in the label of an entry. -/
theorem not_mem_columns {c : Char} (digit : c.isDigit = false) {entry : Entry}
    (label : c ∉ entry.identity.label.toList) : ∀ field ∈ entry.columns, c ∉ field.toList := by
  intro field mem
  simp only [columns, List.mem_cons, List.mem_map] at mem
  rcases mem with rfl | rfl | rfl | rfl | rfl | ⟨value, -, rfl⟩
  · exact not_mem_decimal digit _
  · exact label
  · exact not_mem_decimal digit _
  · exact not_mem_decimal digit _
  · exact not_mem_decimal digit _
  · exact not_mem_decimal digit _

/-- The fields of an entry's line are a row of it, and slots may follow them. -/
theorem isRow_columns {entry : Entry} (countable : entry.registers.length < UInt64.size)
    (slots : List String) : IsRow (entry.columns ++ slots) entry := by
  have number (n : UInt64) : IsNumber n (decimal n.toNat).toList :=
    number_eq_ok_iff.1 (Field.number_decimal "" n)
  have count : (UInt64.ofNat entry.registers.length).toNat = entry.registers.length :=
    UInt64.toNat_ofNat_of_lt' countable
  have counted := number (.ofNat entry.registers.length)
  rw [count] at counted
  have values := mapM_number_eq_ok_iff.1 (Field.mapM_number_decimal "" entry.registers)
  exact .intro (number _) (number _) (number _) counted (by rw [List.length_map, count]) values

/-- The fields of an entry's line are read if its label has no semicolon. -/
theorem fields_render {entry : Entry} (label : ';' ∉ entry.identity.label.toList) :
    Profile.fields entry.render = entry.columns := by
  rw [render_eq]
  exact Profile.fields_line (not_mem_columns (by decide) label) entry.endInWord_columns

/-- An entry is read from its line if its label has no semicolon. -/
theorem parse_render {entry : Entry} (label : ';' ∉ entry.identity.label.toList)
    (countable : entry.registers.length < UInt64.size) : parse entry.render = .ok entry := by
  rw [parse_eq_ok_iff, fields_render label, ← List.append_nil entry.columns]
  exact isRow_columns countable []

end Instruction.Entry

/-! ### Entries of memory accesses -/

namespace Memory.Entry

/-- The fields of an entry's line. -/
def columns (entry : Entry) : List String :=
  [ entry.sequence.toNat, entry.byte.toNat, entry.next.toNat, entry.identity.offset.toNat,
    entry.identity.access.toNat, entry.identity.total.toNat ].map decimal

theorem render_eq (entry : Entry) : entry.render = Profile.line entry.columns := rfl

theorem endInWord_columns (entry : Entry) : Profile.EndInWord entry.columns := by
  apply Profile.endInWord_of_forall (by simp [columns])
  intro field mem
  obtain ⟨n, -, rfl⟩ := List.mem_map.1 mem
  exact isWord_decimal n

theorem not_mem_columns {c : Char} (digit : c.isDigit = false) (entry : Entry) :
    ∀ field ∈ entry.columns, c ∉ field.toList := by
  intro field mem
  obtain ⟨n, -, rfl⟩ := List.mem_map.1 mem
  exact not_mem_decimal digit n

/-- The fields of an entry's line are a row of it. -/
theorem isRow_columns (entry : Entry) : IsRow entry.columns entry := by
  have number (n : UInt64) : IsNumber n (decimal n.toNat).toList :=
    number_eq_ok_iff.1 (Field.number_decimal "" n)
  have byte (b : UInt8) : IsNumber b.toUInt64 (decimal b.toNat).toList :=
    byte_eq_ok_iff.1 (Field.byte_decimal "" b)
  exact .intro (number _) (byte _) (byte _) (number _) (number _) (number _)

/-- An entry is read from its line. -/
theorem parse_render (entry : Entry) : parse entry.render = .ok entry := by
  have read : Profile.fields entry.render = entry.columns := by
    rw [render_eq]
    exact Profile.fields_line (entry.not_mem_columns (by decide)) entry.endInWord_columns
  rw [parse_eq_ok_iff, read]
  exact entry.isRow_columns

end Memory.Entry

/-! ### Logs -/

/-- The entries that a log can hold: labels have none of the characters that end a field or a line,
and the number of values is one of 64 bits. -/
def Entry.Legible : {d : Domain} → Entry d → Prop
  | .instruction, entry =>
    let label := (Instruction.Entry.identity entry).label.toList
    ';' ∉ label ∧ '\n' ∉ label ∧ (Instruction.Entry.registers entry).length < UInt64.size
  | .memory, _ => True

variable {d : Domain}

theorem Entry.parse_render {entry : Entry d} (h : entry.Legible) :
    Entry.parse d entry.render = .ok entry := by
  cases d with
  | instruction => exact Instruction.Entry.parse_render h.1 h.2.2
  | memory => exact Memory.Entry.parse_render entry

/-- The fields of an entry's line. -/
def Entry.columns : {d : Domain} → Entry d → List String
  | .instruction, entry => Instruction.Entry.columns entry
  | .memory, entry => Memory.Entry.columns entry

theorem Entry.render_eq (entry : Entry d) : entry.render = Profile.line entry.columns := by
  cases d <;> rfl

@[simp] theorem Entry.sequence_observe (number : UInt64) (event : Event d) :
    (Entry.observe number event).sequence = number := by
  cases d <;> rfl

/-- The line of an entry begins with its number. -/
theorem Entry.exists_render_eq (entry : Entry d) :
    ∃ rest, entry.render = decimal entry.sequence.toNat ++ ";" ++ rest := by
  rw [render_eq]
  cases d with
  | instruction => exact ⟨_, Profile.line_cons (by simp) _⟩
  | memory => exact ⟨_, Profile.line_cons (by simp) _⟩

theorem Entry.endInWord_columns (entry : Entry d) : Profile.EndInWord entry.columns := by
  cases d with
  | instruction => exact Instruction.Entry.endInWord_columns entry
  | memory => exact Memory.Entry.endInWord_columns entry

theorem Entry.Legible.not_mem_columns {entry : Entry d} (h : entry.Legible) :
    ∀ field ∈ entry.columns, '\n' ∉ field.toList := by
  cases d with
  | instruction => exact Instruction.Entry.not_mem_columns (by decide) h.2.1
  | memory => exact Memory.Entry.not_mem_columns (by decide) entry

theorem Entry.isLine_render {entry : Entry d} (h : entry.Legible) :
    Text.IsLine entry.render := by
  rw [render_eq]
  exact Profile.isLine_line h.not_mem_columns entry.endInWord_columns

theorem Entry.isBlankLine_render (entry : Entry d) : Text.isBlankLine entry.render = false := by
  rw [render_eq]
  exact Profile.isBlankLine_line entry.endInWord_columns

namespace Profile

/-- The text of a log with these entries. -/
def text (entries : List (Entry d)) : String :=
  String.join (entries.map fun entry => entry.render ++ "\n")

/-- The entries of a log are read as they were written. -/
theorem parse_text {entries : List (Entry d)} (h : ∀ entry ∈ entries, entry.Legible) :
    parse d (text entries) = .ok entries := by
  have whole : ∀ line ∈ entries.map Entry.render, Text.IsLine line := by
    intro line mem
    obtain ⟨entry, he, rfl⟩ := List.mem_map.1 mem
    exact Entry.isLine_render (h entry he)
  have written : text entries =
      String.join ((entries.map Entry.render).map (· ++ "\n")) := by
    rw [text, List.map_map]
    rfl
  have kept : (entries.map Entry.render).filter (fun line => !Text.isBlankLine line) =
      entries.map Entry.render := by
    apply List.filter_eq_self.2
    intro line mem
    obtain ⟨entry, -, rfl⟩ := List.mem_map.1 mem
    simp [Entry.isBlankLine_render]
  rw [parse, written, Text.lines_join whole, kept]
  exact Except.mapM_map_of_read fun entry he => Entry.parse_render (h entry he)

end Profile

end FaultReplay
