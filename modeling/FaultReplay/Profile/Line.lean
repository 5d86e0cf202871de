import FaultReplay.Text.Blank

/-!
# Lines of a profile log

The fields of a line stand between semicolons. Blanks at the end of a line and one semicolon before
them belong to no field.
-/

namespace FaultReplay.Profile

/-- Drops one semicolon at the end. -/
def dropSeparator (cs : List Char) : List Char :=
  if cs.getLast? = some ';' then cs.dropLast else cs

/-- The fields of a line, at least one. -/
def fields (line : String) : List String :=
  ((dropSeparator (Text.dropEndBlanks line.toList)).splitOn ';').map String.ofList

/-- Writes fields as a line. -/
def line (fields : List String) : String :=
  ";".intercalate fields

end FaultReplay.Profile
