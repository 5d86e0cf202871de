import FaultReplay.Domain
import FaultReplay.Mode

/-!
# Settings

The raw configuration of one domain: a mode and three paths, each of which may be missing. The mode
stays a text, so that a bad value becomes an error only where the domain first needs it.
-/

namespace FaultReplay

/-- The raw configuration of one domain. -/
structure Settings where
  mode : Option String := none
  /-- Where profiled events are appended. -/
  profilePath : Option String := none
  /-- Where the plan is read from. -/
  planPath : Option String := none
  /-- Where the outcome is written. -/
  outcomePath : Option String := none
  deriving DecidableEq, Repr, Inhabited

namespace Settings

/-- The settings of a domain in a source of values by key. -/
def ofSource (d : Domain) (source : String → Option String) : Settings where
  mode := source (d.key "MODE")
  profilePath := source (d.key "PROFILE_FILE")
  planPath := source (d.key "PLAN_FILE")
  outcomePath := source (d.key "OUTCOME_FILE")

/-- The settings of a domain in an environment, whose values are bytes. A value that is no text
counts as missing. -/
def ofEnvironment (d : Domain) (environment : String → Option ByteArray) : Settings :=
  ofSource d fun key => (environment key).bind String.fromUTF8?

/-- The mode that is configured. -/
def resolveMode (settings : Settings) : Except Error Mode :=
  Mode.resolve settings.mode

/-- The profile path, which profiling needs. -/
def requireProfilePath (settings : Settings) : Except Error String :=
  match settings.profilePath with
  | some path => .ok path
  | none => .error .noProfilePath

/-- The plan path, which injecting needs. -/
def requirePlanPath (settings : Settings) : Except Error String :=
  match settings.planPath with
  | some path => .ok path
  | none => .error .noPlanPath

/-- The outcome path, which injecting needs. -/
def requireOutcomePath (settings : Settings) : Except Error String :=
  match settings.outcomePath with
  | some path => .ok path
  | none => .error .noOutcomePath

end Settings

end FaultReplay
