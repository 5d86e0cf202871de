import FaultReplay.Disk.Basic
import FaultReplay.Fault.Record
import FaultReplay.Text.Blank
import FaultReplay.Text.Lines

/-!
# Outcomes

The record of a fault that was applied: the values seen at its target, then the fault itself, as
lines of a key, a colon and a value. When a record is read back, a line is cut at its first colon.
-/

namespace FaultReplay

/-- A record of an applied fault, as keys with values in the order of the lines. -/
structure Outcome where
  fields : List (String × String)
  deriving DecidableEq, Repr

namespace Outcome

/-- The record of a fault with the values seen when it was applied. -/
def ofFault {d : Domain} (observed : List (String × String)) (fault : Fault d) : Outcome :=
  ⟨observed ++ fault.echo⟩

/-- A record as text. -/
def render (outcome : Outcome) : String :=
  String.join (outcome.fields.map fun field => field.1 ++ ":" ++ field.2 ++ "\n")

/-- The value of the first line with this key. -/
def get? (outcome : Outcome) (key : String) : Option String :=
  outcome.fields.lookup key

/-- The key and the value of a line. -/
def splitLine (line : String) : Except Error (String × String) :=
  match line.toList.dropWhile (· != ':') with
  | [] => .error (.malformedOutcomeLine line)
  | _ :: value =>
    .ok (String.ofList (line.toList.takeWhile (· != ':')), String.ofList value)

/-- The record that a text describes. Blank lines are skipped. -/
def parse (text : String) : Except Error Outcome := do
  let fields ← ((Text.lines text).filter fun line => !Text.isBlankLine line).mapM splitLine
  return ⟨fields⟩

/-- The record in a file of which the text is given if there is one. -/
def ofFile (path : String) : Option String → Except Error Outcome
  | none => .error (.outcomeUnreadable path)
  | some text => parse text

/-- The record in a file of the disk. -/
def load (disk : Disk) (path : String) : Except Error Outcome :=
  ofFile path (disk.readText? path)

/-- Replaces the contents of a file by a record. -/
def save (outcome : Outcome) (disk : Disk) (path : String) : Except Error Disk :=
  match disk.write? path outcome.render.toUTF8 with
  | none => .error (.outcomeUnwritable path)
  | some disk => .ok disk

end Outcome

end FaultReplay
