import FaultReplay.Disk.Basic
import FaultReplay.Json.Decode
import FaultReplay.Settings

/-!
# Settings as JSON

Settings are written as an object with all four fields. When they are read, any field may be missing
or null.
-/

namespace FaultReplay.Settings

open Json (Value)

/-- The names of the fields. -/
def fieldNames : List String :=
  ["mode", "profile_path", "plan_path", "outcome_path"]

/-- Settings as a JSON value. -/
def toJson (settings : Settings) : Value :=
  .ofMembers
    [ ("mode", .ofOption .ofText settings.mode),
      ("profile_path", .ofOption .ofText settings.profilePath),
      ("plan_path", .ofOption .ofText settings.planPath),
      ("outcome_path", .ofOption .ofText settings.outcomePath) ]

/-- The settings that a JSON value stands for. -/
def ofJson? (value : Value) : Option Settings := do
  match ← value.fields? fieldNames 0 with
  | [mode, profilePath, planPath, outcomePath] =>
    return {
      mode := ← Value.optional? Value.text? mode
      profilePath := ← Value.optional? Value.text? profilePath
      planPath := ← Value.optional? Value.text? planPath
      outcomePath := ← Value.optional? Value.text? outcomePath }
  | _ => none

/-- The settings in a JSON file. -/
def load (disk : Disk) (path : String) : Except Error Settings :=
  match disk.readText? path with
  | none => .error (.settingsUnreadable path)
  | some text =>
    match (Json.read text).bind ofJson? with
    | none => .error (.settingsMalformed path)
    | some settings => .ok settings

end FaultReplay.Settings
