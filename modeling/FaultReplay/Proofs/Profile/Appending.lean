import FaultReplay.Proofs.Profile.Lookup
import FaultReplay.Proofs.Profile.Refusals
import FaultReplay.Proofs.Profile.Trailing

/-!
# Logs that grow

A log that ends its last line keeps its entries when something is appended, and what is appended has
entries of its own after them. So an event that was found stays found, as long as every line that is
appended is blank or an entry. One line that is neither makes the whole log unreadable.
-/

namespace FaultReplay

variable {d : Domain} {log block line rest path content : String} {entries more : List (Entry d)}
  {number : UInt64} {entry : Entry d}

open Text (EndsLine isBlankLine closeLine)

namespace Profile

/-! ### Blocks of entries -/

/-- A text of which every line is blank or an entry. -/
def WellFormed (d : Domain) (block : String) : Prop :=
  ∀ line ∈ Text.lines block, isBlankLine line = true ∨ ∃ entry, Entry.parse d line = .ok entry

/-- A line that is neither blank nor an entry. -/
def Malformed (d : Domain) (line : String) : Prop :=
  isBlankLine line = false ∧ ∀ entry, Entry.parse d line ≠ .ok entry

theorem exists_lists_iff : (∃ entries, Lists (d := d) content entries) ↔ WellFormed d content := by
  constructor
  · rintro ⟨entries, listed⟩ line mem
    by_cases blank : isBlankLine line = true
    · exact Or.inl blank
    · have kept : line ∈ (Text.lines content).filter fun line => !isBlankLine line :=
        List.mem_filter.2 ⟨mem, by simpa using blank⟩
      obtain ⟨entry, -, read⟩ :=
        Except.exists_of_mapM_of_mem (Except.mapM_eq_ok_iff_forall₂.2 listed) line kept
      exact Or.inr ⟨entry, read⟩
  · intro whole
    have reads : ∀ line ∈ (Text.lines content).filter fun line => !isBlankLine line,
        ∃ entry, Entry.parse d line = .ok entry := by
      intro line mem
      obtain ⟨listed, visible⟩ := List.mem_filter.1 mem
      exact (whole line listed).resolve_left (by simpa using visible)
    obtain ⟨entries, read⟩ := Except.exists_mapM reads
    exact ⟨entries, Except.mapM_eq_ok_iff_forall₂.1 read⟩

/-! ### Appending -/

theorem Lists.append (ends : EndsLine log) (listed : Lists log entries)
    (listedMore : Lists block more) : Lists (log ++ block) (entries ++ more) := by
  rw [Lists, Text.lines_append ends, List.filter_append]
  exact List.rel_append listed listedMore

theorem IsFirst.append (first : IsFirst entries number entry) (more : List (Entry d)) :
    IsFirst (entries ++ more) number entry := by
  obtain ⟨before, after, rfl, same, fresh⟩ := first
  exact ⟨before, after ++ more, by simp, same, fresh⟩

theorem findIn_eq_ok_iff_exists :
    findIn d path (some content) number = .ok entry ↔
      ∃ entries, Lists content entries ∧ IsFirst entries number entry := by
  constructor
  · intro found
    obtain ⟨_, entries, ⟨⟩, listed⟩ := exists_lists_of_findIn found
    exact ⟨entries, listed, (findIn_eq_ok_iff listed).1 found⟩
  · rintro ⟨entries, listed, first⟩
    exact (findIn_eq_ok_iff listed).2 first

/-- An event that was found in a log is found in what the log grows to. -/
theorem findIn_append (ends : EndsLine log) (whole : WellFormed d block)
    (found : findIn d path (some log) number = .ok entry) :
    findIn d path (some (log ++ block)) number = .ok entry := by
  obtain ⟨entries, listed, first⟩ := findIn_eq_ok_iff_exists.1 found
  obtain ⟨more, listedMore⟩ := exists_lists_iff.2 whole
  exact findIn_eq_ok_iff_exists.2
    ⟨entries ++ more, listed.append ends listedMore, first.append more⟩

/-! ### Malformed lines -/

/-- The carriage return that reading takes off a line makes no difference to what the line is. -/
theorem malformed_closeLine : Malformed d (closeLine line) ↔ Malformed d line := by
  obtain ⟨gap, split, blank⟩ := Text.exists_eq_closeLine_append line
  have same (entry : Entry d) :
      Entry.parse d (closeLine line) = .ok entry ↔ Entry.parse d line = .ok entry := by
    rw [Entry.parse_eq_ok_iff, Entry.parse_eq_ok_iff, ← fields_append_of_blank blank, ← split]
  simp only [Malformed, Text.isBlankLine_closeLine, ne_eq, same]

theorem not_wellFormed_of_mem (listed : line ∈ Text.lines content) (bad : Malformed d line) :
    ¬ WellFormed d content := by
  intro whole
  rcases whole line listed with blank | ⟨entry, read⟩
  · exact Bool.false_ne_true (bad.1.symm.trans blank)
  · exact bad.2 entry read

/-- A malformed line stays one when it is appended to a log, as its last line or ended by a line
feed. -/
theorem exists_malformed_of_append (ends : EndsLine log) (single : '\n' ∉ line.toList)
    (bad : Malformed d line) (closed : rest = "" ∨ ∃ after, rest = "\n" ++ after) :
    ∃ other ∈ Text.lines (log ++ (line ++ rest)), Malformed d other := by
  rw [Text.lines_append ends]
  -- The last line of a text keeps its carriage return; a line that is ended may lose one.
  rcases closed with rfl | ⟨after, rfl⟩
  · have nonempty : line ≠ "" := by
      rintro rfl
      exact Bool.false_ne_true bad.1.symm
    rw [String.append_empty, Text.lines_of_not_mem single nonempty]
    exact ⟨line, List.mem_append_right _ List.mem_cons_self, bad⟩
  · rw [← String.append_assoc, Text.lines_append_of_not_mem single]
    exact ⟨closeLine line, List.mem_append_right _ List.mem_cons_self, malformed_closeLine.2 bad⟩

/-- Nothing is found in a text with a malformed line. -/
theorem findIn_of_malformed (listed : line ∈ Text.lines content) (bad : Malformed d line)
    (path : String) (number : UInt64) :
    ∃ e, findIn d path (some content) number = .error e ∧ e.kind = .configuration := by
  cases answer : findIn d path (some content) number with
  | error e => exact ⟨e, rfl, findIn_failsWith d path _ number e answer⟩
  | ok entry =>
      obtain ⟨entries, read, -⟩ := findIn_eq_ok_iff_exists.1 answer
      exact absurd (exists_lists_iff.1 ⟨entries, read⟩) (not_wellFormed_of_mem listed bad)

end Profile

end FaultReplay
