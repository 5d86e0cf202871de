import FaultReplay.Error
import FaultReplay.Proofs.Text.OneLine

/-!
# Reports on one line

A driver reads a simulator's output line by line, so it sees the whole of a report only if that is
on one line. What a message shows it shows in quotes, except for paths, for some names and labels
and for the words of the program around the library. A report is on one line exactly if these are.
-/

namespace FaultReplay.Error

open Text

/-- The paths that a message shows as they are. -/
def paths : Error → List String
  | planUnreadable path | profileUnopenable path | profileUnwritable path
  | profileUnreadable path | noSuchEvent _ path | outcomeUnreadable path
  | outcomeUnwritable path => [path]
  | _ => []

/-- The names and labels that a message shows as they are, and the words of another program. -/
def unquoted : Error → List String
  | unknownDomain name | badNumber name .. | badFlag name .. | wideField name ..
  | wideValue name .. => [name]
  | ambiguousPlan _ target => [target]
  | entryRegisterCount _ label _ | registerCount label .. => [label]
  | raised _ message | raisedByFile message => [message]
  | _ => []

@[simp] theorem oneLine_numeralProblem (problem : Numeral.Problem) :
    OneLine (numeralProblem problem) := by
  cases problem <;> exact oneLine_ofList (by decide)

theorem oneLine_of_message {e : Error} (h : OneLine e.message) :
    (∀ path ∈ e.paths, OneLine path) ∧ ∀ text ∈ e.unquoted, OneLine text := by
  delta message at h
  cases e <;> simp_all [paths, unquoted]

theorem oneLine_message {e : Error} (shown : ∀ path ∈ e.paths, OneLine path)
    (said : ∀ text ∈ e.unquoted, OneLine text) : OneLine e.message := by
  delta message
  -- Everything else in a message is a number, a quoted text or a literal.
  cases e <;> simp_all [paths, unquoted] <;> and_intros <;> exact oneLine_ofList (by decide)

/-- A message is on one line exactly if everything in it is that is not quoted. -/
theorem oneLine_message_iff (e : Error) :
    OneLine e.message ↔
      (∀ path ∈ e.paths, OneLine path) ∧ ∀ text ∈ e.unquoted, OneLine text :=
  ⟨oneLine_of_message, fun h => oneLine_message h.1 h.2⟩

/-- The marks of a report add no line. -/
theorem oneLine_framed_iff (message location : String) :
    OneLine ("SIMFI_ERROR:::" ++ message ++ ":::AT:" ++ location) ↔
      OneLine message ∧ OneLine location := by
  have marker : OneLine "SIMFI_ERROR:::" := oneLine_ofList (by decide)
  have separator : OneLine ":::AT:" := oneLine_ofList (by decide)
  simp [marker, separator]

theorem oneLine_report_iff (e : Error) (location : String) :
    OneLine (e.report location) ↔ OneLine e.message ∧ OneLine location :=
  oneLine_framed_iff e.message location

end FaultReplay.Error
