import FaultReplay.Text.Blank
import Mathlib.Data.List.DropRight
import Mathlib.Data.List.TakeWhile

/-!
# Blanks at the ends of a text

What is left of a text without the blanks at its two ends: the one stretch of it that neither begins
nor ends with a blank and has nothing but blanks around it.
-/

namespace FaultReplay.Text

variable {cs core : List Char}

/-- The stretch of a text that is left without the blanks at its ends. -/
structure IsCore (cs core : List Char) : Prop where
  inside : ∃ front back, cs = front ++ core ++ back ∧
    (∀ c ∈ front, isBlank c = true) ∧ ∀ c ∈ back, isBlank c = true
  first : ∀ c, core.head? = some c → isBlank c = false
  last : ∀ c, core.getLast? = some c → isBlank c = false

/-- Blanks are dropped at the end as by the library's own function. -/
theorem dropEndBlanks_eq_rdropWhile (cs : List Char) :
    dropEndBlanks cs = cs.rdropWhile isBlank := rfl

/-- What trimming leaves has no blank at its ends, and only blanks are gone. -/
theorem isCore_dropEndBlanks (cs : List Char) :
    IsCore cs (dropEndBlanks (cs.dropWhile isBlank)) := by
  rw [dropEndBlanks_eq_rdropWhile]
  let rest := cs.dropWhile isBlank
  refine ⟨⟨cs.takeWhile isBlank, rest.rtakeWhile isBlank, ?_, ?_, ?_⟩, ?_, ?_⟩
  · rw [List.append_assoc, List.rdropWhile_append_rtakeWhile, List.takeWhile_append_dropWhile]
  · exact fun c mem => List.mem_takeWhile_imp mem
  · exact fun c mem => List.mem_rtakeWhile_imp mem
  · intro c head
    obtain ⟨gone, joined⟩ := List.rdropWhile_prefix isBlank rest
    have start : rest.head? = some c := by rw [← joined, List.head?_append, head, Option.some_or]
    have visible := List.head?_dropWhile_not isBlank cs
    rwa [start] at visible
  · intro c final
    have nonempty : rest.rdropWhile isBlank ≠ [] := by
      intro empty
      rw [empty] at final
      cases final
    rw [List.getLast?_eq_some_getLast nonempty] at final
    obtain rfl := Option.some.inj final
    exact Bool.eq_false_iff.2 (List.rdropWhile_last_not isBlank rest nonempty)

/-- No other stretch of a text is its core. -/
theorem IsCore.eq_dropEndBlanks (h : IsCore cs core) :
    core = dropEndBlanks (cs.dropWhile isBlank) := by
  obtain ⟨⟨front, back, rfl, before, after⟩, first, last⟩ := h
  rw [List.append_assoc, List.dropWhile_append_of_pos before]
  cases core with
  | nil =>
      rw [List.nil_append, List.dropWhile_eq_nil_iff.2 after]
      rfl
  | cons c more =>
      have visible := first c rfl
      rw [List.cons_append, List.dropWhile_cons_of_neg (by simp [visible]), ← List.cons_append,
        dropEndBlanks_append after, dropEndBlanks_eq_rdropWhile]
      symm
      rw [List.rdropWhile_eq_self_iff]
      intro some_character
      rw [last _ (List.getLast?_eq_some_getLast some_character)]
      exact Bool.false_ne_true

/-- A text is trimmed to its core. -/
theorem trim_eq_iff {text inner : String} :
    trim text = inner ↔ IsCore text.toList inner.toList := by
  rw [trim, ← String.toList_inj, String.toList_ofList]
  constructor
  · intro same
    rw [← same]
    exact isCore_dropEndBlanks _
  · exact fun core => core.eq_dropEndBlanks.symm

end FaultReplay.Text
