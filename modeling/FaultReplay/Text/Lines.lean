/-!
# Lines

A line ends with a line feed; one carriage return just before that line feed belongs to the line
end. What follows the last line feed is a line too unless it is empty, and keeps its carriage
returns.
-/

namespace FaultReplay.Text

/-- Drops one carriage return at the end. -/
def dropReturn (cs : List Char) : List Char :=
  if cs.getLast? = some '\r' then cs.dropLast else cs

/-- The lines made of the stretches between line feeds. -/
def closeLines : List (List Char) → List (List Char)
  | [] => []
  | [rest] => if rest.isEmpty then [] else [rest]
  | line :: more => dropReturn line :: closeLines more

/-- The lines of a list of characters. -/
def splitLines (cs : List Char) : List (List Char) :=
  closeLines (cs.splitOn '\n')

theorem closeLines_cons {more : List (List Char)} (h : more ≠ []) (line : List Char) :
    closeLines (line :: more) = dropReturn line :: closeLines more := by
  cases more with
  | nil => exact absurd rfl h
  | cons next more => rfl

@[simp] theorem splitLines_nil : splitLines [] = [] := by
  simp [splitLines, List.splitOn_nil, closeLines]

/-- A line is read up to its line feed. -/
theorem splitLines_append_cons {line : List Char} (h : '\n' ∉ line) (cs : List Char) :
    splitLines (line ++ '\n' :: cs) = dropReturn line :: splitLines cs := by
  rw [splitLines, List.splitOn_append_cons_self_of_not_mem h,
    closeLines_cons (List.splitOn_ne_nil _ _), splitLines]

/-- The lines of a text. -/
def lines (text : String) : List String :=
  (splitLines text.toList).map String.ofList

end FaultReplay.Text
