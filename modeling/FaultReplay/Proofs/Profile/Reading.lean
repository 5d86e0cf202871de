import FaultReplay.Proofs.Profile.Entries

/-!
# Entries that are read

Whatever stands in a log, a label that is read from it has no semicolon, at which fields end, and no
line feed, at which lines end. So only the entries that a log can hold come back from its text.
-/

namespace FaultReplay

variable {d : Domain}

/-- A field that was read has no semicolon, and its characters stand in the line. -/
theorem Profile.mem_of_mem_fields {text field : String} (h : field ∈ Profile.fields text) :
    ∀ c ∈ field.toList, c ∈ text.toList ∧ c ≠ ';' := by
  have trimmed : Text.dropEndBlanks text.toList ⊆ text.toList := by
    intro c mem
    have kept : c ∈ text.toList.reverse :=
      (List.dropWhile_sublist _).subset (List.mem_reverse.1 mem)
    exact List.mem_reverse.1 kept
  have closed : dropSeparator (Text.dropEndBlanks text.toList) ⊆ text.toList := by
    unfold dropSeparator
    split
    · exact fun c mem => trimmed (List.dropLast_subset _ mem)
    · exact trimmed
  obtain ⟨piece, stretch, rfl⟩ := List.mem_map.1 h
  intro c mem
  rw [String.toList_ofList] at mem
  obtain ⟨inside, whole⟩ := Text.mem_of_mem_splitOnP stretch c mem
  exact ⟨closed inside, by simpa using whole⟩

/-- A label that was read from a line has no semicolon, and its characters stand in the line. -/
theorem Instruction.Entry.mem_of_parse {text : String} {entry : Entry}
    (h : parse text = .ok entry) :
    ∀ c ∈ entry.identity.label.toList, c ∈ text.toList ∧ c ≠ ';' :=
  Profile.mem_of_mem_fields (parse_eq_ok_iff.1 h).label_mem

/-- An entry that was read from a line can stand in a log. -/
theorem Entry.legible_of_parse {text : String} {entry : Entry d} (single : '\n' ∉ text.toList)
    (h : Entry.parse d text = .ok entry) : entry.Legible := by
  cases d with
  | memory => trivial
  | instruction =>
      have characters := Instruction.Entry.mem_of_parse h
      have row := Instruction.Entry.parse_eq_ok_iff.1 h
      exact ⟨fun mem => (characters _ mem).2 rfl, fun mem => single (characters _ mem).1,
        row.countable⟩

/-! ### There and back -/

/-- Whatever line an entry was read from, it is read from its own line too. -/
theorem Entry.parse_render_of_parse {text : String} {entry : Entry d}
    (h : Entry.parse d text = .ok entry) : Entry.parse d entry.render = .ok entry := by
  cases d with
  | memory => exact Memory.Entry.parse_render entry
  | instruction =>
      have whole : ';' ∉ (Instruction.Entry.identity entry).label.toList := fun mem =>
        (Instruction.Entry.mem_of_parse h _ mem).2 rfl
      exact Instruction.Entry.parse_render whole (Instruction.Entry.parse_eq_ok_iff.1 h).countable

/-- A memory entry comes back from its line always, an instruction entry exactly if its label has no
semicolon, and an entry that was read from a line in any case. -/
theorem Entry.line_round_trip :
    (∀ entry : Memory.Entry, Memory.Entry.parse entry.render = .ok entry) ∧
    (∀ entry : Instruction.Entry, entry.registers.length < UInt64.size →
      (Instruction.Entry.parse entry.render = .ok entry ↔
        ';' ∉ entry.identity.label.toList)) ∧
    ∀ (d : Domain) (line : String) (entry : Entry d), Entry.parse d line = .ok entry →
      Entry.parse d entry.render = .ok entry ∧
        (Entry.parse d entry.render).map Entry.render = .ok entry.render := by
  refine ⟨Memory.Entry.parse_render, fun entry countable => ⟨fun read mem => ?_, fun whole => ?_⟩,
    fun d line entry read => ?_⟩
  · exact (Instruction.Entry.mem_of_parse read _ mem).2 rfl
  · exact Instruction.Entry.parse_render whole countable
  · have again := Entry.parse_render_of_parse read
    refine ⟨again, ?_⟩
    rw [again]
    rfl

/-- A label without characters comes back. One with a semicolon does not: its line is that of
another entry, which comes back as itself. -/
theorem Entry.line_round_trip_shifted :
    Instruction.Entry.parse "7;;4;0;2;3;9" = .ok ⟨7, ⟨0, ""⟩, 4, [3, 9]⟩ ∧
    Instruction.Entry.parse (Instruction.Entry.render ⟨1, ⟨1, "A;4"⟩, 0, [7]⟩) ≠
      .ok ⟨1, ⟨1, "A;4"⟩, 0, [7]⟩ ∧
    Instruction.Entry.parse "1;A;4;0;1;1;7" = .ok ⟨1, ⟨0, "A"⟩, 4, [1]⟩ ∧
    Instruction.Entry.render ⟨1, ⟨1, "A;4"⟩, 0, [7]⟩ = "1;A;4;0;1;1;7" ∧
    Instruction.Entry.parse "1;A;4;0;1;1" = .ok ⟨1, ⟨0, "A"⟩, 4, [1]⟩ := by
  refine ⟨?_, ?_, by decide +kernel, by decide +kernel, ?_⟩
  · exact (Entry.line_round_trip.2.1 ⟨7, ⟨0, ""⟩, 4, [3, 9]⟩ (by decide)).2 (by decide)
  · intro read
    exact absurd ((Entry.line_round_trip.2.1 ⟨1, ⟨1, "A;4"⟩, 0, [7]⟩ (by decide)).1 read)
      (by decide)
  · exact (Entry.line_round_trip.2.2 .instruction "1;A;4;0;1;1;7" ⟨1, ⟨0, "A"⟩, 4, [1]⟩
      (by decide +kernel)).1

namespace Profile

theorem legible_of_parse {text : String} {entries : List (Entry d)}
    (h : parse d text = .ok entries) : ∀ entry ∈ entries, entry.Legible := by
  intro entry mem
  obtain ⟨line, listed, read⟩ := Except.exists_of_mem_mapM h entry mem
  exact Entry.legible_of_parse (Text.not_mem_of_mem_lines (List.mem_filter.1 listed).1) read

/-- The entries of a log come back from its text exactly if each of them can stand in a log. -/
theorem parse_text_eq_ok_iff {entries : List (Entry d)} :
    parse d (text entries) = .ok entries ↔ ∀ entry ∈ entries, entry.Legible :=
  ⟨legible_of_parse, parse_text⟩

end Profile

end FaultReplay
