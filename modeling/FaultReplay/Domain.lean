import FaultReplay.Error

/-!
# Domains

The two kinds of events a simulator reports, with their names and the names of their settings.
-/

namespace FaultReplay

/-- The two intercepted kinds of events. -/
inductive Domain where
  /-- Retired instructions. A fault hits an output register. -/
  | instruction
  /-- Memory accesses. A fault hits bytes of the accessed region. -/
  | memory
  deriving DecidableEq, Repr

namespace Domain

/-- The name of a domain in settings and arguments. -/
def name : Domain → String
  | instruction => "insn"
  | memory => "mem"

/-- The domain with this name. -/
def ofName (name : String) : Except Error Domain :=
  if name = "insn" then .ok instruction
  else if name = "mem" then .ok memory
  else .error (.unknownDomain name)

/-- What the keys of a domain's settings begin with. -/
def keyStem : Domain → String
  | instruction => "SIMFI_INSN_"
  | memory => "SIMFI_MEM_"

/-- The key of a domain's setting. -/
def key (d : Domain) (setting : String) : String :=
  d.keyStem ++ setting

end Domain

end FaultReplay
