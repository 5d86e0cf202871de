import FaultReplay.Domain
import FaultReplay.Json.Decode

/-!
# Domains as JSON

A domain is written as its name; it is also read from an object whose only key is that name, with
null as its value.
-/

namespace FaultReplay.Domain

/-- The name of a domain in JSON. -/
def jsonName : Domain → String
  | instruction => "Instruction"
  | memory => "Memory"

/-- A domain as a JSON value. -/
def toJson (d : Domain) : Json.Value :=
  .ofText d.jsonName

/-- The domain with this name in JSON. -/
def ofJsonName? (name : String) : Option Domain :=
  if name = "Instruction" then some instruction
  else if name = "Memory" then some memory
  else none

/-- The domain that a JSON value stands for. -/
def ofJson? : Json.Value → Option Domain
  | .string (some name) => ofJsonName? name
  | .object [(some name, .null)] => ofJsonName? name
  | _ => none

theorem ofJson?_toJson (d : Domain) : ofJson? d.toJson = some d := by
  cases d <;> rfl

end FaultReplay.Domain
