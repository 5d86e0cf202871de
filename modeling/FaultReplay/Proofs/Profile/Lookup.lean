import FaultReplay.Profile.Log
import FaultReplay.Proofs.Except

/-!
# Entries looked up

A log is read as a whole or not at all: every line of it that is not blank has to be an entry. An
event is looked up as the first of the entries with its number, so later passes of the same program
change nothing.
-/

namespace FaultReplay

variable {d : Domain} {content : String} {entries : List (Entry d)} {number : UInt64}
  {entry other : Entry d}

namespace Profile

/-- The entries of a text: one for each of its lines that is not blank, in their order. -/
def Lists (content : String) (entries : List (Entry d)) : Prop :=
  List.Forall₂ (fun line entry => Entry.parse d line = .ok entry)
    ((Text.lines content).filter fun line => !Text.isBlankLine line) entries

/-- The first entry with a number. -/
def IsFirst (entries : List (Entry d)) (number : UInt64) (entry : Entry d) : Prop :=
  ∃ before after, entries = before ++ entry :: after ∧ entry.sequence = number ∧
    ∀ other ∈ before, other.sequence ≠ number

theorem parse_eq_ok_iff : parse d content = .ok entries ↔ Lists content entries :=
  Except.mapM_eq_ok_iff_forall₂

theorem find?_eq_some_iff :
    (entries.find? fun entry => entry.sequence == number) = some entry ↔
      IsFirst entries number entry := by
  simp only [List.find?_eq_some_iff_append, IsFirst, beq_iff_eq, Bool.not_eq_true',
    beq_eq_false_iff_ne]
  constructor
  · rintro ⟨same, before, after, split, fresh⟩
    exact ⟨before, after, split, same, fresh⟩
  · rintro ⟨before, after, split, same, fresh⟩
    exact ⟨same, before, after, split, fresh⟩

/-- An event is found in a text of entries as the first of them with its number. -/
theorem findIn_eq_ok_iff {log : String} (listed : Lists content entries) :
    findIn d log (some content) number = .ok entry ↔ IsFirst entries number entry := by
  rw [findIn, ofFile, parse_eq_ok_iff.2 listed, Except.ok_bind, ← find?_eq_some_iff]
  cases entries.find? fun entry => entry.sequence == number <;> simp

/-- An event is found only in a text of entries. -/
theorem exists_lists_of_findIn {log : String} {text : Option String}
    (h : findIn d log text number = .ok entry) :
    ∃ content entries, text = some content ∧ Lists (d := d) content entries := by
  obtain ⟨entries, read, -⟩ := Except.exists_of_bind_eq_ok h
  cases text with
  | none => cases read
  | some content => exact ⟨content, entries, rfl, parse_eq_ok_iff.1 read⟩

end Profile

end FaultReplay
