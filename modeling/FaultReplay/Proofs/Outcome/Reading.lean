import FaultReplay.Outcome
import FaultReplay.Proofs.Disk.Files
import FaultReplay.Proofs.Except
import Mathlib.Data.List.TakeWhile

/-!
# Records that are read

A field is written on a line of its own and read up to its first colon, so it comes back exactly if
its key has no colon, neither part has a line feed, and its value does not end in the carriage
return that would be taken for part of the line end. A record comes back if all of its fields do:
no line of it is blank, so none is skipped.
-/

namespace FaultReplay.Outcome

open Text (closeLine isBlankLine IsLine)

variable {field : String × String} {outcome : Outcome}

/-- A field as a line. -/
def fieldLine (field : String × String) : String :=
  field.1 ++ ":" ++ field.2

/-- The fields that a record can hold and give back. -/
structure Legible (field : String × String) : Prop where
  whole : ':' ∉ field.1.toList
  key : '\n' ∉ field.1.toList
  value : IsLine field.2

theorem render_eq (outcome : Outcome) :
    outcome.render = String.join ((outcome.fields.map fieldLine).map (· ++ "\n")) := by
  rw [render, List.map_map]
  rfl

/-! ### Lines of fields -/

theorem toList_fieldLine (field : String × String) :
    (fieldLine field).toList = field.1.toList ++ ':' :: field.2.toList := by
  simp [fieldLine]

/-- A line is cut at its first colon. -/
theorem splitLine_eq_ok_iff {line : String} :
    splitLine line = .ok field ↔ ':' ∉ field.1.toList ∧ line = fieldLine field := by
  obtain ⟨key, value⟩ := field
  have joined := List.takeWhile_append_dropWhile (p := (· != ':')) (l := line.toList)
  have before : ':' ∉ line.toList.takeWhile (· != ':') := by
    intro mem
    have different := List.mem_takeWhile_imp mem
    simp at different
  constructor
  · intro h
    unfold splitLine at h
    split at h
    · cases h
    · rename_i c rest cut
      obtain rfl : c = ':' := by
        simpa [cut] using List.head?_dropWhile_not (· != ':') line.toList
      obtain ⟨rfl, rfl⟩ := h
      constructor
      · rwa [String.toList_ofList]
      · rw [← String.toList_inj, toList_fieldLine, String.toList_ofList, String.toList_ofList,
          ← cut, joined]
  · rintro ⟨whole, rfl⟩
    have apart : ∀ c ∈ key.toList, (c != ':') = true := by
      intro c mem
      rw [bne_iff_ne]
      rintro rfl
      exact whole mem
    simp [splitLine, toList_fieldLine, List.dropWhile_append_of_pos apart,
      List.takeWhile_append_of_pos apart]

theorem feed_not_mem_fieldLine_iff :
    '\n' ∉ (fieldLine field).toList ↔ '\n' ∉ field.1.toList ∧ '\n' ∉ field.2.toList := by
  simp [toList_fieldLine, not_or]

/-- A field whose line has been ended comes back if its value keeps its end. -/
theorem closeLine_fieldLine_iff :
    closeLine (fieldLine field) = fieldLine field ↔ field.2.toList.getLast? ≠ some '\r' := by
  rw [Text.closeLine_eq_self_iff, toList_fieldLine, List.getLast?_append_of_ne_nil _ (by simp)]
  cases value : field.2.toList with
  | nil => simp
  | cons c cs => simp [List.getLast?_cons_cons]

theorem isBlankLine_fieldLine (field : String × String) :
    isBlankLine (fieldLine field) = false := by
  simp [isBlankLine, toList_fieldLine, show Text.isBlank ':' = false by decide]

/-! ### Records -/

/-- The lines of a record whose fields have no line feed: one for each field. -/
theorem lines_render (single : ∀ field ∈ outcome.fields, '\n' ∉ (fieldLine field).toList) :
    (Text.lines outcome.render).filter (fun line => !isBlankLine line) =
      outcome.fields.map fun field => closeLine (fieldLine field) := by
  have whole : ∀ line ∈ outcome.fields.map fieldLine, '\n' ∉ line.toList := by
    intro line mem
    obtain ⟨field, listed, rfl⟩ := List.mem_map.1 mem
    exact single field listed
  rw [render_eq, Text.lines_join_of_not_mem whole, List.map_map, List.filter_eq_self.2]
  · rfl
  · intro line mem
    obtain ⟨field, -, rfl⟩ := List.mem_map.1 mem
    simp [Text.isBlankLine_closeLine, isBlankLine_fieldLine]

theorem parse_eq_ok_iff {text : String} :
    parse text = .ok outcome ↔
      ((Text.lines text).filter fun line => !isBlankLine line).mapM splitLine =
        .ok outcome.fields := by
  constructor
  · intro h
    obtain ⟨fields, read, h⟩ := Except.exists_of_bind_eq_ok h
    cases h
    exact read
  · intro h
    rw [parse, h]
    rfl

/-- Every field of a record that was read has its line. -/
theorem feed_not_mem_of_parse {text : String} (h : parse text = .ok outcome) :
    ∀ field ∈ outcome.fields, '\n' ∉ (fieldLine field).toList := by
  intro field mem
  obtain ⟨line, listed, cut⟩ := Except.exists_of_mem_mapM (parse_eq_ok_iff.1 h) field mem
  rw [← (splitLine_eq_ok_iff.1 cut).2]
  exact Text.not_mem_of_mem_lines (List.mem_filter.1 listed).1

/-- A record comes back from its text exactly if each of its fields can. -/
theorem parse_render_iff :
    parse outcome.render = .ok outcome ↔ ∀ field ∈ outcome.fields, Legible field := by
  constructor
  · intro h field mem
    have single := feed_not_mem_of_parse h
    have read := parse_eq_ok_iff.1 h
    rw [lines_render single, Except.mapM_eq_ok_iff_forall₂, List.forall₂_map_left_iff,
      List.forall₂_same] at read
    obtain ⟨whole, same⟩ := splitLine_eq_ok_iff.1 (read field mem)
    obtain ⟨key, value⟩ := feed_not_mem_fieldLine_iff.1 (single field mem)
    exact ⟨whole, key, value, closeLine_fieldLine_iff.1 same⟩
  · intro h
    have single : ∀ field ∈ outcome.fields, '\n' ∉ (fieldLine field).toList := fun field mem =>
      feed_not_mem_fieldLine_iff.2 ⟨(h field mem).key, (h field mem).value.1⟩
    rw [parse_eq_ok_iff, lines_render single]
    apply Except.mapM_map_of_read
    intro field mem
    exact splitLine_eq_ok_iff.2
      ⟨(h field mem).whole, closeLine_fieldLine_iff.2 (h field mem).value.2⟩

/-- A record comes back from a file that holds it exactly if each of its fields can. -/
theorem load_eq_ok_iff {disk : Disk} {path : String}
    (held : disk.read? path = some outcome.render.toUTF8) :
    load disk path = .ok outcome ↔ ∀ field ∈ outcome.fields, Legible field := by
  rw [load, Disk.readText?_eq_some_iff.2 held, ofFile, parse_render_iff]

end FaultReplay.Outcome
