import FaultReplay.Plan.Text
import FaultReplay.Proofs.Field

/-!
# Refused plans

The causes for which a list, a text or a file is no plan. All of them are matters of configuration.
-/

namespace FaultReplay

variable {d : Domain}

/-- The causes for which a text is no plan. -/
def Error.RefusesPlan : Error → Prop
  | badNumber .. | badFlag .. | wideValue .. | instructionRecordLength .. | memoryRecordLength ..
  | multiCellInstruction .. | noSecondaryOffset .. | planTooLong .. | planEmpty
  | planFieldCount .. | ambiguousPlan .. => True
  | _ => False

/-- No operation on a file is behind a refusal. -/
theorem Error.RefusesPlan.kind {e : Error} (h : e.RefusesPlan) :
    e.kind = .configuration ∧ e.fromFile = false := by
  cases e with
  | badNumber | badFlag | wideValue | instructionRecordLength | memoryRecordLength
  | multiCellInstruction | noSecondaryOffset | planTooLong | planEmpty | planFieldCount
  | ambiguousPlan => exact ⟨rfl, rfl⟩
  | _ => exact h.elim

open Except (FailsWith)
open Error (RefusesPlan)

/-! ### Fields and records -/

theorem Field.number_failsWith (name field : String) :
    (number name field).FailsWith RefusesPlan := by
  refine (number_fails name field).mono ?_
  rintro _ ⟨problem, rfl⟩
  trivial

theorem Field.flag_failsWith (name field : String) : (flag name field).FailsWith RefusesPlan := by
  unfold flag
  split
  · exact .ok _
  · split
    · exact .ok _
    · exact .error trivial

theorem Fault.refusesPlan_of_problem? {fault : Fault d} {e : Error}
    (h : fault.problem? = some e) : e.RefusesPlan := by
  cases d with
  | instruction =>
      simp only [problem?, Instruction.faultProblem?] at h
      split at h
      · cases h
        trivial
      · cases h
  | memory =>
      simp only [problem?, Memory.faultProblem?] at h
      split at h
      · cases h
        trivial
      split at h
      · cases h
        trivial
      split at h
      · cases h
        trivial
      · cases h

theorem Fault.ofFields_failsWith (d : Domain) (record : List String) :
    (ofFields d record).FailsWith RefusesPlan := by
  have number := Field.number_failsWith
  cases d with
  | instruction =>
      simp only [ofFields, Instruction.faultOfFields]
      split
      · refine (number _ _).bind fun trigger => (number _ _).bind fun core => ?_
        exact (number _ _).bind fun mask => (number _ _).bind fun expected => .ok _
      · exact .error trivial
  | memory =>
      simp only [ofFields, Memory.faultOfFields]
      split
      · refine (number _ _).bind fun trigger => (number _ _).bind fun offset => ?_
        refine (number _ _).bind fun access => (number _ _).bind fun total => ?_
        refine (number _ _).bind fun mask => (number _ _).bind fun expected => ?_
        refine (number _ _).bind fun secondary => (Field.flag_failsWith _ _).bind fun double => ?_
        split
        · rename_i problem
          exact .error (refusesPlan_of_problem? (d := .memory) problem)
        · exact .ok _
      · exact .error trivial

/-! ### Lists, texts and files -/

namespace Plan

theorem refusesPlan_of_listProblem? {seen : List (UInt64 × Identity d)}
    {faults : List (Fault d)} {e : Error} (h : listProblem? seen faults = some e) :
    e.RefusesPlan := by
  induction faults generalizing seen with
  | nil => cases h
  | cons fault faults ih =>
      rw [listProblem?] at h
      split at h
      · rename_i problem
        cases h
        exact Fault.refusesPlan_of_problem? problem
      · split at h
        · cases h
          trivial
        · exact ih h

theorem ofFaults_failsWith (faults : List (Fault d)) :
    (ofFaults faults).FailsWith RefusesPlan := by
  unfold ofFaults
  split
  · split
    · rename_i problem
      exact .error (refusesPlan_of_listProblem? problem)
    · exact .ok _
  · exact .error trivial

theorem readRecords_failsWith (n : Nat) (fields : List String) :
    (readRecords d n fields).FailsWith RefusesPlan := by
  induction n generalizing fields with
  | zero => exact .ok _
  | succ n ih =>
      refine (Fault.ofFields_failsWith d _).bind fun fault => ?_
      exact (ih _).bind fun rest => .ok _

theorem ofCountedWords_failsWith (words : List String) :
    (ofCountedWords d words).FailsWith RefusesPlan := by
  cases words with
  | nil => exact .error trivial
  | cons count fields =>
      refine (Field.number_failsWith _ _).bind fun n => ?_
      split
      · exact .error trivial
      · split
        · exact .error trivial
        · exact (readRecords_failsWith _ _).bind ofFaults_failsWith

theorem parse_failsWith (text : String) : (parse d text).FailsWith RefusesPlan := by
  unfold parse ofWords
  split
  · exact (Fault.ofFields_failsWith d _).bind fun fault => ofFaults_failsWith _
  · exact ofCountedWords_failsWith _

/-- A file is no plan for a cause in its text, or because there is no text to read. -/
theorem load_failsWith (disk : Disk) (path : String) :
    (load d disk path).FailsWith fun e => e.RefusesPlan ∨ e = .planUnreadable path := by
  unfold load ofFile
  split
  · exact .error (Or.inr rfl)
  · exact (parse_failsWith _).mono fun e => Or.inl

end Plan

end FaultReplay
