import FaultReplay.Disk.Basic
import FaultReplay.Instruction.Entry
import FaultReplay.Memory.Entry
import FaultReplay.Text.Lines

/-!
# Profile logs

A log gains a line for every profiled event and is never cut, so profiling the same program again
adds the same lines. Looking an event up by its number finds the first pass.
-/

namespace FaultReplay

namespace Entry

/-- The entry of an event. -/
def observe : {d : Domain} → UInt64 → Event d → Entry d
  | .instruction, sequence, event => Instruction.Entry.observe sequence event
  | .memory, sequence, event => Memory.Entry.observe sequence event

/-- The line of an entry. -/
def render : {d : Domain} → Entry d → String
  | .instruction, entry => Instruction.Entry.render entry
  | .memory, entry => Memory.Entry.render entry

/-- The entry on a line. -/
def parse : (d : Domain) → String → Except Error (Entry d)
  | .instruction, line => Instruction.Entry.parse line
  | .memory, line => Memory.Entry.parse line

/-- The fault that corrupts an entry's event, with a second cell if a distance to it is given. An
instruction has no second cell. -/
def fault : {d : Domain} → Entry d → UInt64 → Option UInt64 → Except Error (Fault d)
  | .instruction, entry, mask, _ => Instruction.Entry.fault entry mask
  | .memory, entry, mask, none => Memory.Entry.fault entry mask
  | .memory, entry, mask, some secondary => Memory.Entry.doubleFault entry mask secondary

end Entry

namespace Profile

/-- Appends a line to a log. -/
def append (disk : Disk) (path line : String) : Except Error Disk :=
  match disk.append path (line ++ "\n").toUTF8 with
  | .ok disk => .ok disk
  | .error .unopened => .error (.profileUnopenable path)
  | .error .unwritten => .error (.profileUnwritable path)

/-- The entries of a log's text. Blank lines are skipped. -/
def parse (d : Domain) (text : String) : Except Error (List (Entry d)) :=
  ((Text.lines text).filter fun line => !Text.isBlankLine line).mapM (Entry.parse d)

/-- The entries of a log of which the text is given if there is one. -/
def ofFile (d : Domain) (path : String) : Option String → Except Error (List (Entry d))
  | none => .error (.profileUnreadable path)
  | some text => parse d text

/-- The first entry with this number in a log of which the text is given if there is one. -/
def findIn (d : Domain) (path : String) (text : Option String) (sequence : UInt64) :
    Except Error (Entry d) := do
  let entries ← ofFile d path text
  match entries.find? fun entry => entry.sequence == sequence with
  | some entry => .ok entry
  | none => .error (.noSuchEvent sequence path)

/-- The entries of a log of the disk. -/
def load (d : Domain) (disk : Disk) (path : String) : Except Error (List (Entry d)) :=
  ofFile d path (disk.readText? path)

/-- The first entry with this number in a log of the disk. -/
def find (d : Domain) (disk : Disk) (path : String) (sequence : UInt64) :
    Except Error (Entry d) :=
  findIn d path (disk.readText? path) sequence

end Profile

end FaultReplay
