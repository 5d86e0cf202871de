import FaultReplay.Cli.Run

/-!
# The planner's tool

The command line around `Cli.Request`: it reads the one file that a command needs and prints the
answer.
-/

namespace FaultReplay

/-- The text of a file, if it can be read as text. -/
def readFile? (path : String) : IO (Option String) := do
  try
    let bytes ← IO.FS.readBinFile path
    return String.fromUTF8? bytes
  catch _ => return none

/-- Answers a row of arguments and returns the exit code. -/
def answerArguments (arguments : List String) : IO UInt32 := do
  let request := Cli.Request.ofArguments arguments
  let text ←
    match request with
    | .command asked => readFile? asked.input
    | _ => pure none
  let answer := request.answer (fun _ => text) "simfi"
  IO.print answer.output
  if let some report := answer.report then
    IO.eprintln ("Error: " ++ report)
  if answer.code = 2 then
    IO.eprint Cli.helpText
  return UInt32.ofNat answer.code

end FaultReplay

def main (arguments : List String) : IO UInt32 :=
  FaultReplay.answerArguments arguments
