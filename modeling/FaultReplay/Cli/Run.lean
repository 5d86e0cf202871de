import FaultReplay.Cli.Command
import FaultReplay.Derivation
import FaultReplay.Outcome.Summary
import FaultReplay.Plan.Text

/-!
# Running a command

A command reads one file and prints a text. It ends with code 0 if it succeeds, with 1 if the
library refuses something, and with 2 if its arguments cannot be understood; only success prints to
the output.
-/

namespace FaultReplay.Cli

/-- Why a command fails. -/
inductive Failure where
  /-- The library refuses something. -/
  | library (cause : Error)
  /-- A second cell is asked for in a register. -/
  | secondaryOnInstruction
  deriving DecidableEq, Repr

/-- The line a failure is reported with. -/
def Failure.report (location : String) : Failure → String
  | library cause => cause.report location
  | secondaryOnInstruction => "A secondary offset only applies to memory faults"

/-- What the tool leaves behind. -/
structure Answer where
  code : Nat
  output : String
  /-- What is reported of a failed command. -/
  report : Option String := none
  deriving DecidableEq, Repr

/-- The file that a command reads. -/
def Command.input : Command → String
  | .validate _ plan => plan
  | .derive _ profile .. => profile
  | .outcome path => path

/-- What the library makes of a file, or its refusal as a failure. -/
def orRefused {α : Type} : Except Error α → Except Failure α
  | .ok a => .ok a
  | .error e => .error (.library e)

/-- What a command prints, from the text of its file if that has one. -/
def Command.run (command : Command) (text : Option String) : Except Failure String :=
  match command with
  | .validate d path => do
    let plan ← orRefused (Plan.ofFile d path text)
    return plan.render
  | .derive d path events mask secondary =>
    if d = .instruction ∧ secondary.isSome then .error .secondaryOnInstruction
    else do
      let plan ← orRefused (Plan.derive d path text events mask secondary)
      return plan.render
  | .outcome path => do
    let outcome ← orRefused (Outcome.ofFile path text)
    return outcome.summaryText ++ "\n"

/-- The answer to a command. -/
def Command.answer (command : Command) (text : Option String) (location : String) : Answer :=
  match command.run text with
  | .ok output => ⟨0, output, none⟩
  | .error failure => ⟨1, "", some (failure.report location)⟩

/-- The name and the version of the tool. -/
def versionText : String :=
  "simfi 0.1.0\n"

/-- How the tool is used. -/
def helpText : String :=
  "Usage: simfi [-l <LEVEL>] <COMMAND>\n\nCommands:\n" ++
    "  validate -d <DOMAIN> <PLAN>\n" ++
    "  derive -d <DOMAIN> -p <PROFILE> -e <EVENT>... -m <MASK> [-s <SECONDARY_OFFSET>]\n" ++
    "  outcome <OUTCOME>\n"

/-- The answer to a request. The text of a file is asked for by its path. -/
def Request.answer (request : Request) (text : String → Option String) (location : String) :
    Answer :=
  match request with
  | .command asked => asked.answer (text asked.input) location
  | .version => ⟨0, versionText, none⟩
  | .help => ⟨0, helpText, none⟩
  | .usage => ⟨2, "", none⟩

end FaultReplay.Cli
