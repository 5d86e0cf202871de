import FaultReplay.Profile.Line
import FaultReplay.Proofs.Text.Reading

/-!
# Written lines of a log

Fields without a semicolon are read back from the line they were written as. The last of them has to
end the line visibly, since blanks at the end of a line belong to no field.
-/

namespace FaultReplay.Profile

open Text (IsWord IsLine isBlank dropEndBlanks isBlankLine)

/-- Fields of which the last one is a word. -/
def EndInWord (fields : List String) : Prop :=
  ∃ last, fields.getLast? = some last ∧ IsWord last

theorem EndInWord.ne_nil {fs : List String} (h : EndInWord fs) : fs ≠ [] := by
  rintro rfl
  obtain ⟨last, nothing, -⟩ := h
  simp at nothing

theorem endInWord_of_forall {fs : List String} (nonempty : fs ≠ [])
    (h : ∀ field ∈ fs, IsWord field) : EndInWord fs :=
  ⟨fs.getLast nonempty, List.getLast?_eq_some_getLast _, h _ (List.getLast_mem _)⟩

theorem endInWord_cons {fs : List String} (h : EndInWord fs) (field : String) :
    EndInWord (field :: fs) := by
  obtain ⟨last, hl, word⟩ := h
  refine ⟨last, ?_, word⟩
  rw [List.getLast?_cons, hl, Option.getD_some]

/-! ### The characters of a line -/

theorem line_cons {fs : List String} (nonempty : fs ≠ []) (field : String) :
    line (field :: fs) = field ++ ";" ++ line fs :=
  String.intercalate_cons_of_ne_nil nonempty

theorem mem_line {c : Char} {fs : List String} (h : c ∈ (line fs).toList) :
    c = ';' ∨ ∃ field ∈ fs, c ∈ field.toList := by
  induction fs with
  | nil => simp [line] at h
  | cons field fs ih =>
      cases fs with
      | nil => exact Or.inr ⟨field, List.mem_cons_self, by simpa [line] using h⟩
      | cons next fs =>
          rw [line_cons (by simp)] at h
          simp only [String.toList_append, List.mem_append] at h
          rcases h with (here | separator) | later
          · exact Or.inr ⟨field, List.mem_cons_self, here⟩
          · exact Or.inl (by simpa using separator)
          · rcases ih later with separator | ⟨other, mem, hc⟩
            · exact Or.inl separator
            · exact Or.inr ⟨other, List.mem_cons_of_mem _ mem, hc⟩

/-- A line ends with its last field. -/
theorem exists_line_eq_append {fs : List String} {last : String} (h : fs.getLast? = some last) :
    ∃ before, line fs = before ++ last := by
  induction fs with
  | nil => simp at h
  | cons field fs ih =>
      cases fs with
      | nil =>
          have same : field = last := by simpa using h
          exact ⟨"", by simp [line, same]⟩
      | cons next fs =>
          obtain ⟨before, hb⟩ := ih (by simpa using h)
          refine ⟨field ++ ";" ++ before, ?_⟩
          rw [line_cons (by simp), hb]
          simp only [String.append_assoc]

theorem EndInWord.getLast?_line {fs : List String} (h : EndInWord fs) :
    ∃ last ∈ fs, ∃ c ∈ last.toList, (line fs).toList.getLast? = some c ∧ isBlank c = false := by
  obtain ⟨last, hl, word⟩ := h
  obtain ⟨before, hb⟩ := exists_line_eq_append hl
  obtain ⟨c, hc, visible⟩ := word.getLast
  refine ⟨last, List.mem_of_getLast? hl, c, List.mem_of_getLast? hc, ?_, visible⟩
  rw [hb, String.toList_append, List.getLast?_append, hc, Option.some_or]

/-! ### Reading -/

/-- A line is cut at the semicolons between its fields. -/
theorem splitOn_line {fs : List String} (whole : ∀ field ∈ fs, ';' ∉ field.toList)
    (nonempty : fs ≠ []) : (line fs).toList.splitOn ';' = fs.map String.toList := by
  rw [line, String.toList_intercalate]
  apply List.splitOn_intercalate
  · simpa using whole
  · simpa using nonempty

/-- Fields without a semicolon are read as they were written. -/
theorem fields_line {fs : List String} (whole : ∀ field ∈ fs, ';' ∉ field.toList)
    (ending : EndInWord fs) : fields (line fs) = fs := by
  obtain ⟨last, mem, c, hc, final, visible⟩ := ending.getLast?_line
  have trimmed : dropEndBlanks (line fs).toList = (line fs).toList :=
    Text.dropEndBlanks_of_getLast? final visible
  have closed : dropSeparator (line fs).toList = (line fs).toList := by
    apply if_neg
    rw [final]
    rintro ⟨rfl⟩
    exact whole last mem hc
  rw [fields, trimmed, closed, splitOn_line whole ending.ne_nil]
  simp [List.map_map, Function.comp_def]

theorem isLine_line {fs : List String} (whole : ∀ field ∈ fs, '\n' ∉ field.toList)
    (ending : EndInWord fs) : IsLine (line fs) := by
  constructor
  · intro mem
    rcases mem_line mem with separator | ⟨field, hf, hc⟩
    · exact absurd separator (by decide)
    · exact whole field hf hc
  · obtain ⟨-, -, c, -, final, visible⟩ := ending.getLast?_line
    rw [final]
    rintro ⟨rfl⟩
    exact absurd visible (by decide)

theorem isBlankLine_line {fs : List String} (ending : EndInWord fs) :
    isBlankLine (line fs) = false := by
  obtain ⟨-, -, c, -, final, visible⟩ := ending.getLast?_line
  rw [isBlankLine, List.all_eq_false]
  exact ⟨c, List.mem_of_getLast? final, by simp [visible]⟩

end FaultReplay.Profile
