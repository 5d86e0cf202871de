import FaultReplay.Cli.Arguments
import FaultReplay.Domain
import FaultReplay.Field

/-!
# Commands

What the planner's tool is asked to do, and the reading of its arguments. A row of arguments that
asks for nothing sensible is a usage error. Help and the version are options before the name of a
command, not after it.
-/

namespace FaultReplay.Cli

/-- What the tool is asked to do. -/
inductive Command where
  /-- Print a plan file in its normal form. -/
  | validate (d : Domain) (plan : String)
  /-- Print the plan that strikes events of a profile log. -/
  | derive (d : Domain) (profile : String) (events : List UInt64) (mask : UInt64)
      (secondary : Option UInt64)
  /-- Print an outcome as JSON. -/
  | outcome (path : String)
  deriving DecidableEq, Repr

/-- What a row of arguments asks for. -/
inductive Request where
  | command (command : Command)
  /-- Print the version. -/
  | version
  /-- Print how the tool is used. -/
  | help
  /-- The arguments cannot be understood. -/
  | usage
  deriving DecidableEq, Repr

/-! ### Options -/

def logLevel : Parameter := ⟨'l', "log-level"⟩
def domain : Parameter := ⟨'d', "domain"⟩
def profile : Parameter := ⟨'p', "profile"⟩
def event : Parameter := ⟨'e', "event"⟩
def mask : Parameter := ⟨'m', "mask"⟩
def secondaryOffset : Parameter := ⟨'s', "secondary-offset"⟩

/-! ### Values -/

/-- The value of an option that is given exactly once. -/
def single? (parameter : Parameter) (pieces : List Piece) : Option String :=
  match valuesOf parameter pieces with
  | [value] => some value
  | _ => none

/-- The value of an option that is given at most once, as far as it can be read. -/
def atMostOnce? {α : Type} (read : String → Option α) (parameter : Parameter)
    (pieces : List Piece) : Option (Option α) :=
  match valuesOf parameter pieces with
  | [] => some none
  | [value] => (read value).map some
  | _ => none

/-- A path is a text with something in it. -/
def path? (text : String) : Option String :=
  if text = "" then none else some text

/-- The number that an argument gives. -/
def number? (text : String) : Option UInt64 :=
  (Field.number "number" text).toOption

/-- The domain that an argument names. -/
def domain? (text : String) : Option Domain :=
  (Domain.ofName text).toOption

/-! ### Arguments -/

/-- Reads the arguments of `validate`. -/
def validate? (arguments : List String) : Option Command := do
  let pieces ← pieces? [domain] arguments
  let d ← (single? domain pieces).bind domain?
  match operands pieces with
  | [plan] => return .validate d (← path? plan)
  | _ => none

/-- Reads the arguments of `derive`. -/
def derive? (arguments : List String) : Option Command := do
  let pieces ← pieces? [domain, profile, event, mask, secondaryOffset] arguments
  let d ← (single? domain pieces).bind domain?
  let log ← (single? profile pieces).bind path?
  let events ← (valuesOf event pieces).mapM number?
  let bits ← (single? mask pieces).bind number?
  let distance ← atMostOnce? number? secondaryOffset pieces
  if events = [] ∨ operands pieces ≠ [] then none
  else return .derive d log events bits distance

/-- Reads the arguments of `outcome`. -/
def outcome? (arguments : List String) : Option Command := do
  let pieces ← pieces? [] arguments
  match operands pieces with
  | [path] => return .outcome (← path? path)
  | _ => none

/-- The names of the log levels, in lower case. A level is also given by a digit. -/
def logLevels : List String :=
  ["off", "error", "warn", "info", "debug", "trace"]

/-- Whether a text is a log level. Nothing at all is one too. -/
def isLogLevel (text : String) : Bool :=
  match Numeral.read 10 UInt64.size text.toList with
  | .ok n => n ≤ 5
  | .error _ => text = "" || logLevels.contains (String.ofList (text.toList.map Char.toLower))

/-- The request for a command, if its arguments could be read. -/
def Request.ofCommand? : Option Command → Request
  | some asked => .command asked
  | none => .usage

/-- Reads the arguments of `help`: nothing, or one thing that help can be had for. -/
def helpAbout : List String → Request
  | [] => .help
  | [topic] =>
    if ["validate", "derive", "outcome", "help"].contains topic then .help else .usage
  | _ => .usage

/-- Reads the arguments of a command by its name. -/
def ofCommandName (name : String) (arguments : List String) : Request :=
  if name = "validate" then .ofCommand? (validate? arguments)
  else if name = "derive" then .ofCommand? (derive? arguments)
  else if name = "outcome" then .ofCommand? (outcome? arguments)
  else if name = "help" then helpAbout arguments
  else .usage

/-- Reads the arguments up to the name of a command, and the command. The log level is given there,
at most once, and changes nothing that the tool answers. -/
def requestAfter (levelGiven : Bool) : List String → Request
  | [] => .usage
  | text :: rest =>
    if text = "--" then .usage
    else if text = "--version" ∨ text.startsWith "-V" then .version
    else if text = "--help" ∨ text.startsWith "-h" then .help
    else
      match Argument.ofText [logLevel] text, rest with
      | .unknown, _ => .usage
      | .operand name, rest => ofCommandName name rest
      | .attached _ level, rest =>
        if levelGiven = false ∧ isLogLevel level then requestAfter true rest else .usage
      | .awaiting _, [] => .usage
      | .awaiting _, level :: rest =>
        if levelGiven = false ∧ isValue level ∧ isLogLevel level then requestAfter true rest
        else .usage

/-- What a row of arguments asks for. -/
def Request.ofArguments (arguments : List String) : Request :=
  requestAfter false arguments

end FaultReplay.Cli
