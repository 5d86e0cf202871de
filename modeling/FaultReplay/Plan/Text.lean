import FaultReplay.Disk.Basic
import FaultReplay.Plan.Basic
import FaultReplay.Text.Blank

/-!
# Plans as text

A plan is written as the number of its faults followed by their records, one a line. It is read as
words, so any blanks may stand between them. A memory plan of one fault may leave out the count.
-/

namespace FaultReplay.Plan

open Numeral (decimal)

variable {d : Domain}

/-- A plan as text. -/
def render (plan : Plan d) : String :=
  decimal plan.faults.length ++ "\n" ++
    String.join (plan.faults.map fun fault => fault.render ++ "\n")

/-- Reads so many records from the front of the fields. -/
def readRecords (d : Domain) : Nat → List String → Except Error (List (Fault d))
  | 0, _ => .ok []
  | n + 1, fields => do
    let fault ← Fault.ofFields d (fields.take d.recordLength)
    let rest ← readRecords d n (fields.drop d.recordLength)
    return fault :: rest

/-- Reads a count and as many records. -/
def ofCountedWords (d : Domain) : List String → Except Error (Plan d)
  | [] => .error .planEmpty
  | count :: fields => do
    let count ← Field.number "fault count" count
    if capacity < count.toNat then
      .error (.planTooLong count.toNat capacity)
    else if fields.length ≠ count.toNat * d.recordLength then
      .error (.planFieldCount count.toNat d.recordLength fields.length)
    else
      let faults ← readRecords d count.toNat fields
      ofFaults faults

/-- Reads the words of a plan. As many words as one record has are that record wherever the domain
lets a record stand alone. -/
def ofWords (d : Domain) (words : List String) : Except Error (Plan d) :=
  if d.readsBareRecord = true ∧ words.length = d.recordLength then do
    let fault ← Fault.ofFields d words
    ofFaults [fault]
  else ofCountedWords d words

/-- The plan that a text describes. -/
def parse (d : Domain) (text : String) : Except Error (Plan d) :=
  ofWords d (Text.words text)

/-- The plan in a file of which the text is given if there is one. -/
def ofFile (d : Domain) (path : String) : Option String → Except Error (Plan d)
  | none => .error (.planUnreadable path)
  | some text => parse d text

/-- The plan in a file of the disk. -/
def load (d : Domain) (disk : Disk) (path : String) : Except Error (Plan d) :=
  ofFile d path (disk.readText? path)

end FaultReplay.Plan
