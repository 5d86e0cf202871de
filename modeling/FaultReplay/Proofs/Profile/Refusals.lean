import FaultReplay.Profile.Log
import FaultReplay.Proofs.Field

/-!
# Refused logs

The causes for which a line is no entry, and those for which an event is not found in a log. All of
them are matters of configuration.
-/

namespace FaultReplay

open Except (FailsWith)

/-- What the numbers of an entry are called in errors. -/
def Entry.fieldNames : List String :=
  [ "counter", "output register count", "size", "core id", "register value", "byte", "offset",
    "access size", "total size" ]

/-- The causes for which a line is no entry. -/
inductive Error.RefusesEntry : Error → Prop
  | badNumber {name : String} (named : name ∈ Entry.fieldNames) (field : String)
      (problem : Numeral.Problem) : RefusesEntry (.badNumber name field problem)
  | wideField (field : String) : RefusesEntry (.wideField "byte" field)
  | missingRegisters (line : String) (declared : UInt64) :
      RefusesEntry (.missingRegisters line declared)
  | malformedInstructionLine (line : String) : RefusesEntry (.malformedInstructionLine line)
  | malformedMemoryLine (line : String) : RefusesEntry (.malformedMemoryLine line)

open Error (RefusesEntry)

/-- No operation on a file is behind a refusal. -/
theorem Error.RefusesEntry.kind {e : Error} (h : e.RefusesEntry) :
    e.kind = .configuration ∧ e.fromFile = false := by
  cases h <;> exact ⟨rfl, rfl⟩

/-! ### Lines -/

theorem Entry.parse_failsWith (d : Domain) (line : String) :
    (Entry.parse d line).FailsWith RefusesEntry := by
  have number {name : String} (named : name ∈ fieldNames) (field : String) :
      (Field.number name field).FailsWith RefusesEntry := by
    refine (Field.number_fails name field).mono ?_
    rintro _ ⟨problem, rfl⟩
    exact .badNumber named field problem
  have byte (field : String) : (Field.byte "byte" field).FailsWith RefusesEntry := by
    refine (Field.byte_fails "byte" field).mono ?_
    rintro _ (⟨problem, rfl⟩ | rfl)
    · exact .badNumber (by decide) field problem
    · exact .wideField field
  cases d with
  | instruction =>
      simp only [Entry.parse, Instruction.Entry.parse]
      split
      · refine (number (by decide) _).bind fun count => ?_
        split
        · exact .error (.missingRegisters line count)
        refine (number (by decide) _).bind fun sequence => ?_
        refine (number (by decide) _).bind fun size => ?_
        refine (number (by decide) _).bind fun core => ?_
        refine (FailsWith.mapM fun value _ => ?_).bind fun registers => .ok _
        exact number (by decide) value
      · exact .error (.malformedInstructionLine line)
  | memory =>
      simp only [Entry.parse, Memory.Entry.parse]
      split
      · refine (number (by decide) _).bind fun sequence => ?_
        refine (byte _).bind fun first => (byte _).bind fun next => ?_
        refine (number (by decide) _).bind fun offset => ?_
        refine (number (by decide) _).bind fun access => ?_
        exact (number (by decide) _).bind fun total => .ok _
      · exact .error (.malformedMemoryLine line)

/-! ### Logs -/

namespace Profile

theorem ofFile_failsWith (d : Domain) (path : String) (text : Option String) :
    (ofFile d path text).FailsWith fun e => e.RefusesEntry ∨ e = .profileUnreadable path := by
  unfold ofFile
  split
  · exact .error (Or.inr rfl)
  · refine FailsWith.mapM fun line _ => ?_
    exact (Entry.parse_failsWith d line).mono fun _ => Or.inl

/-- An event is not found for a matter of configuration, whatever the log holds. -/
theorem findIn_failsWith (d : Domain) (path : String) (text : Option String) (number : UInt64) :
    (findIn d path text number).FailsWith fun e => e.kind = .configuration := by
  refine FailsWith.bind ?_ fun entries => ?_
  · refine (ofFile_failsWith d path text).mono ?_
    rintro e (refused | rfl)
    · exact refused.kind.1
    · rfl
  · split
    · exact .ok _
    · exact .error rfl

end Profile

end FaultReplay
