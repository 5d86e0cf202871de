import FaultReplay.Json.Token
import FaultReplay.Outcome

/-!
# Outcomes as JSON objects

The fields of a record as an object: each key once, in the order of code points, with the value of
its last line.
-/

namespace FaultReplay.Outcome

/-- Puts a field into a list of fields in increasing order of their keys, in place of an earlier one
with the same key. -/
def insertField (field : String × String) : List (String × String) → List (String × String)
  | [] => [field]
  | first :: rest =>
    if field.1 = first.1 then field :: rest
    else if field.1 < first.1 then field :: first :: rest
    else first :: insertField field rest

/-- The fields of a record in increasing order of their keys, the last line of a key alone. -/
def summary (outcome : Outcome) : List (String × String) :=
  outcome.fields.foldl (fun fields field => insertField field fields) []

/-- A member of the object on a line of its own. -/
def memberText (field : String × String) : String :=
  "\n  " ++ String.ofList (Json.quote field.1) ++ ": " ++ String.ofList (Json.quote field.2)

/-- The object over several lines. -/
def summaryText (outcome : Outcome) : String :=
  match outcome.summary with
  | [] => "\x7b\x7d"
  | fields => "\x7b" ++ ",".intercalate (fields.map memberText) ++ "\n\x7d"

end FaultReplay.Outcome
