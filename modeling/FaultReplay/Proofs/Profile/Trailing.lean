import FaultReplay.Proofs.Profile.Entries
import Mathlib.Data.List.TakeWhile

/-!
# What follows an entry on its line

Blanks after an entry belong to no field, nor does one semicolon before them. What stands between
further semicolons are fields. On an instruction line they are slots, which older logs carry and
nothing reads; a memory line has no room for them.
-/

namespace FaultReplay

open FaultReplay.Field (number_eq_ok_iff)
open Text (isBlank isBlankLine dropEndBlanks)

/-! ### Blanks at the end -/

theorem Text.dropEndBlanks_eq_nil_iff {cs : List Char} :
    dropEndBlanks cs = [] ↔ ∀ c ∈ cs, isBlank c = true := by
  simp [dropEndBlanks, List.dropWhile_eq_nil_iff]

/-- Blanks are dropped only behind the last visible character. -/
theorem Text.dropEndBlanks_append_cons {c : Char} (visible : isBlank c = false)
    (before after : List Char) :
    dropEndBlanks (before ++ c :: after) = before ++ c :: dropEndBlanks after := by
  have backwards : (before ++ c :: after).reverse = after.reverse ++ c :: before.reverse := by
    simp
  rw [dropEndBlanks, backwards, List.dropWhile_append]
  split
  · rename_i blank
    have gone : dropEndBlanks after = [] := by
      rw [dropEndBlanks, List.isEmpty_iff.1 blank, List.reverse_nil]
    rw [gone, List.dropWhile_cons_of_neg (by simp [visible])]
    simp
  · simp [dropEndBlanks]

namespace Profile

variable {fs : List String} {rest : String}

theorem fields_append_of_blank {gap : String} (blank : ∀ c ∈ gap.toList, isBlank c = true)
    (text : String) : fields (text ++ gap) = fields text := by
  rw [fields, fields, String.toList_append, Text.dropEndBlanks_append blank]

theorem dropSeparator_append_cons {after : List Char} (more : after ≠ []) (before : List Char) :
    dropSeparator (before ++ ';' :: after) = before ++ ';' :: dropSeparator after := by
  have last : (before ++ ';' :: after).getLast? = after.getLast? := by
    rw [List.getLast?_append_of_ne_nil _ (List.cons_ne_nil _ _), List.getLast?_cons_of_ne_nil more]
  have front : (before ++ ';' :: after).dropLast = before ++ ';' :: after.dropLast := by
    rw [List.dropLast_append_cons, List.dropLast_cons_of_ne_nil more]
  rw [dropSeparator, last, front, dropSeparator]
  split
  · rfl
  · rfl

/-- The fields of a line that goes on after a semicolon: what follows has none if it is blank, and
else the fields that it has as a line of its own. -/
theorem fields_line_append (whole : ∀ field ∈ fs, ';' ∉ field.toList) (nonempty : fs ≠ []) :
    fields (line fs ++ ";" ++ rest) =
      fs ++ if isBlankLine rest = true then [] else fields rest := by
  have chars : (line fs ++ ";" ++ rest).toList = (line fs).toList ++ ';' :: rest.toList := by
    simp
  have written : (fs.map String.toList).map String.ofList = fs := by
    simp [List.map_map, Function.comp_def]
  rw [fields, chars, Text.dropEndBlanks_append_cons (by decide)]
  split
  · rename_i blank
    have nothing : dropEndBlanks rest.toList = [] :=
      Text.dropEndBlanks_eq_nil_iff.2 (List.all_eq_true.1 blank)
    have closed : dropSeparator ((line fs).toList ++ [';']) = (line fs).toList := by
      rw [dropSeparator, List.getLast?_concat, if_pos rfl, List.dropLast_concat]
    rw [nothing, closed, splitOn_line whole nonempty, written, List.append_nil]
  · rename_i visible
    have something : dropEndBlanks rest.toList ≠ [] := fun nothing =>
      visible (List.all_eq_true.2 (Text.dropEndBlanks_eq_nil_iff.1 nothing))
    rw [dropSeparator_append_cons something, List.splitOn_eq_splitOnP,
      List.splitOnP_append_cons _ _ (by simp), ← List.splitOn_eq_splitOnP,
      ← List.splitOn_eq_splitOnP, splitOn_line whole nonempty, List.map_append, written, fields]

theorem fields_ne_nil (text : String) : fields text ≠ [] := by
  simp [fields, List.splitOn_ne_nil]

end Profile

/-! ### Lines of instructions -/

namespace Instruction.Entry

variable {entry : Entry} {line count name after : String}

theorem columns_ne_nil (entry : Entry) : entry.columns ≠ [] :=
  entry.endInWord_columns.ne_nil

/-- An entry is read whatever slots follow it on its line. -/
theorem parse_render_slots (label : ';' ∉ entry.identity.label.toList)
    (countable : entry.registers.length < UInt64.size) (rest : String) :
    parse (entry.render ++ ";" ++ rest) = .ok entry := by
  have whole := not_mem_columns (by decide) label
  rw [parse_eq_ok_iff, render_eq, Profile.fields_line_append whole entry.columns_ne_nil]
  exact isRow_columns countable _

theorem parse_render_blank (label : ';' ∉ entry.identity.label.toList)
    (countable : entry.registers.length < UInt64.size)
    (blank : ∀ c ∈ after.toList, isBlank c = true) :
    parse (entry.render ++ after) = .ok entry := by
  rw [parse_eq_ok_iff, Profile.fields_append_of_blank blank, ← parse_eq_ok_iff]
  exact parse_render label countable

/-- A line that declares more registers than it has values is refused, however many they are. -/
theorem parse_of_missing {declared : UInt64} (fifth : (Profile.fields line)[4]? = some count)
    (spelled : Field.number name count = .ok declared)
    (few : ((Profile.fields line).drop 5).length < declared.toNat) :
    parse line = .error (.missingRegisters line declared) := by
  have read : Field.number "output register count" count = .ok declared :=
    number_eq_ok_iff.2 (number_eq_ok_iff.1 spelled)
  unfold parse
  generalize Profile.fields line = row at fifth few
  split
  · rename_i values
    obtain rfl := Option.some.inj fifth
    have few : values.length < declared.toNat := few
    rw [read, Except.ok_bind, if_pos few]
  · rename_i short
    obtain ⟨inside, -⟩ := List.getElem?_eq_some_iff.1 fifth
    match row, inside with
    | _ :: _ :: _ :: _ :: _ :: _, _ => exact (short _ _ _ _ _ _ rfl).elim

end Instruction.Entry

/-! ### Lines of memory accesses -/

namespace Memory.Entry

variable {line after : String}

/-- A line without exactly six fields is no memory entry. -/
theorem parse_of_length_ne (other : (Profile.fields line).length ≠ 6) :
    parse line = .error (.malformedMemoryLine line) := by
  unfold parse
  split
  · rename_i six
    exact (other (by rw [six]; rfl)).elim
  · rfl

theorem fields_render_append (entry : Entry) (rest : String) :
    Profile.fields (entry.render ++ ";" ++ rest) =
      entry.columns ++ if isBlankLine rest = true then [] else Profile.fields rest := by
  rw [render_eq]
  exact Profile.fields_line_append (entry.not_mem_columns (by decide))
    entry.endInWord_columns.ne_nil

theorem parse_render_blank (entry : Entry) (blank : ∀ c ∈ after.toList, isBlank c = true) :
    parse (entry.render ++ after) = .ok entry := by
  rw [parse_eq_ok_iff, Profile.fields_append_of_blank blank, ← parse_eq_ok_iff]
  exact parse_render entry

/-- One semicolon may end the line of an entry. -/
theorem parse_render_separator (entry : Entry) (blank : ∀ c ∈ after.toList, isBlank c = true) :
    parse (entry.render ++ (";" ++ after)) = .ok entry := by
  have closing : isBlankLine after = true := List.all_eq_true.2 blank
  rw [parse_eq_ok_iff, ← String.append_assoc, fields_render_append, if_pos closing,
    List.append_nil]
  exact entry.isRow_columns

/-- A memory line has no slots. -/
theorem parse_render_slots (entry : Entry) (visible : ¬ ∀ c ∈ after.toList, isBlank c = true) :
    parse (entry.render ++ (";" ++ after)) =
      .error (.malformedMemoryLine (entry.render ++ (";" ++ after))) := by
  apply parse_of_length_ne
  have crowded : ¬ isBlankLine after = true := fun blank => visible (List.all_eq_true.1 blank)
  have more := List.length_pos_iff.2 (Profile.fields_ne_nil after)
  have six : entry.columns.length = 6 := rfl
  rw [← String.append_assoc, fields_render_append, if_neg crowded, List.length_append, six]
  omega

end Memory.Entry

/-- Blanks may follow an entry on its line, and after a semicolon anything at all if it is of an
instruction and only blanks if it is of an access. -/
theorem Entry.slots_tolerated :
    (∀ (entry : Instruction.Entry) (after : String), ';' ∉ entry.identity.label.toList →
      entry.registers.length < UInt64.size →
      ((∀ c ∈ after.toList, isBlank c = true) ∨ after.toList.head? = some ';') →
      Instruction.Entry.parse (entry.render ++ after) = .ok entry) ∧
    (∀ (entry : Memory.Entry) (after : String),
      ((∀ c ∈ after.toList, isBlank c = true) ∨
        ∃ gap, after = ";" ++ gap ∧ ∀ c ∈ gap.toList, isBlank c = true) →
      Memory.Entry.parse (entry.render ++ after) = .ok entry) ∧
    (∀ (entry : Memory.Entry) (after : String), after.toList.head? = some ';' →
      (¬ ∃ gap, after = ";" ++ gap ∧ ∀ c ∈ gap.toList, isBlank c = true) →
      ∃ e, Memory.Entry.parse (entry.render ++ after) = .error e ∧ e.kind = .configuration) ∧
    ∀ (line count name : String) (declared : UInt64), (Profile.fields line)[4]? = some count →
      Field.number name count = .ok declared →
      ((Profile.fields line).drop 5).length < declared.toNat →
      ∃ e, Instruction.Entry.parse line = .error e ∧ e.kind = .configuration := by
  have separated {after : String} (first : after.toList.head? = some ';') :
      ∃ rest, after = ";" ++ rest := by
    obtain ⟨rest, split⟩ := List.head?_eq_some_iff.1 first
    refine ⟨String.ofList rest, String.toList_inj.1 ?_⟩
    simp [split]
  refine ⟨?_, ?_, ?_, ?_⟩
  · rintro entry after label countable (blank | first)
    · exact Instruction.Entry.parse_render_blank label countable blank
    · obtain ⟨rest, rfl⟩ := separated first
      rw [← String.append_assoc]
      exact Instruction.Entry.parse_render_slots label countable rest
  · rintro entry after (blank | ⟨gap, rfl, blank⟩)
    · exact Memory.Entry.parse_render_blank entry blank
    · exact Memory.Entry.parse_render_separator entry blank
  · intro entry after first visible
    obtain ⟨rest, rfl⟩ := separated first
    have refused := Memory.Entry.parse_render_slots entry fun blank => visible ⟨rest, rfl, blank⟩
    exact ⟨_, refused, rfl⟩
  · intro line count name declared fifth spelled few
    exact ⟨_, Instruction.Entry.parse_of_missing fifth spelled few, rfl⟩

/-- An instruction line with slots of which none is a number, a memory line with two semicolons at
its end, and a line that declares as many registers as can be declared. -/
theorem Entry.slots_tolerated_junk :
    Instruction.Entry.parse "5;p.lw;4;2;1;17; ;;x y;\t" = .ok ⟨5, ⟨2, "p.lw"⟩, 4, [17]⟩ ∧
    Memory.Entry.parse "5;1;2;64;4;1024; \t" = .ok ⟨5, 1, 2, ⟨64, 4, 1024⟩⟩ ∧
    (∃ e, Memory.Entry.parse "5;1;2;64;4;1024;; " = .error e ∧ e.kind = .configuration) ∧
    ∃ e, Instruction.Entry.parse "5;p.lw;4;2;18446744073709551615;17;0;0" = .error e ∧
      e.kind = .configuration := by
  refine ⟨?_, ?_, ?_, ?_⟩
  · exact Entry.slots_tolerated.1 ⟨5, ⟨2, "p.lw"⟩, 4, [17]⟩ "; ;;x y;\t" (by decide) (by decide)
      (Or.inr (by decide))
  · exact Entry.slots_tolerated.2.1 ⟨5, 1, 2, ⟨64, 4, 1024⟩⟩ "; \t"
      (Or.inr ⟨" \t", by decide, List.all_eq_true.1 (by decide)⟩)
  · refine Entry.slots_tolerated.2.2.1 ⟨5, 1, 2, ⟨64, 4, 1024⟩⟩ ";; " (by decide) ?_
    rintro ⟨gap, same, blank⟩
    have rest : [';', ' '] = gap.toList := by
      simpa using congrArg (fun text => text.toList.drop 1) same
    exact absurd (blank ';' (by simp [← rest])) (by decide)
  · exact Entry.slots_tolerated.2.2.2 "5;p.lw;4;2;18446744073709551615;17;0;0"
      "18446744073709551615" "output register count" 18446744073709551615 (by decide +kernel)
      (by decide +kernel) (by decide +kernel)

end FaultReplay
