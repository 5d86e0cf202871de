import FaultReplay.Domain
import FaultReplay.Instruction.Basic
import FaultReplay.Memory.Basic
import FaultReplay.Text.Numeral

/-!
# The events of a domain

The types that depend on the domain, by domain: what happens, by what a fault recognises it, and
what a profile log keeps of it.
-/

namespace FaultReplay

open Numeral (decimal)

/-- By what a fault of the domain recognises its event. -/
abbrev Identity : Domain → Type
  | .instruction => Instruction.Identity
  | .memory => Memory.Identity

/-- What the simulator reports to the domain. -/
abbrev Event : Domain → Type
  | .instruction => Instruction.Retirement
  | .memory => Memory.Access

/-- What the domain's profile log keeps of an event. -/
abbrev Entry : Domain → Type
  | .instruction => Instruction.Entry
  | .memory => Memory.Entry

instance instDecidableEqIdentity : (d : Domain) → DecidableEq (Identity d)
  | .instruction => inferInstanceAs (DecidableEq Instruction.Identity)
  | .memory => inferInstanceAs (DecidableEq Memory.Identity)

instance instDecidableEqEvent : (d : Domain) → DecidableEq (Event d)
  | .instruction => inferInstanceAs (DecidableEq Instruction.Retirement)
  | .memory => inferInstanceAs (DecidableEq Memory.Access)

instance instDecidableEqEntry : (d : Domain) → DecidableEq (Entry d)
  | .instruction => inferInstanceAs (DecidableEq Instruction.Entry)
  | .memory => inferInstanceAs (DecidableEq Memory.Entry)

/-- The identity in words. -/
def Identity.describe : {d : Domain} → Identity d → String
  | .instruction, identity => identity.label ++ " on core " ++ decimal identity.core.toNat
  | .memory, identity =>
    "offset " ++ decimal identity.offset.toNat ++ " (" ++ decimal identity.access.toNat ++
      " byte access in " ++ decimal identity.total.toNat ++ " bytes)"

/-- The identity of an event. -/
def Event.identity : {d : Domain} → Event d → Identity d
  | .instruction, retired => Instruction.Retirement.identity retired
  | .memory, access => Memory.Access.identity access

/-- Whether an identity is that of an event. -/
def Event.hasIdentity : {d : Domain} → Event d → Identity d → Bool
  | .instruction, retired, identity => Instruction.Identity.matches identity retired
  | .memory, access, identity => identity == Memory.Access.identity access

theorem Event.hasIdentity_iff {d : Domain} {event : Event d} {identity : Identity d} :
    event.hasIdentity identity = true ↔ identity = event.identity := by
  cases d with
  | instruction => exact Instruction.Identity.matches_iff
  | memory => exact beq_iff_eq

/-- The number of an entry's event. -/
def Entry.sequence : {d : Domain} → Entry d → UInt64
  | .instruction, entry => Instruction.Entry.sequence entry
  | .memory, entry => Memory.Entry.sequence entry

/-- The identity of an entry's event. -/
def Entry.identity : {d : Domain} → Entry d → Identity d
  | .instruction, entry => Instruction.Entry.identity entry
  | .memory, entry => Memory.Entry.identity entry

end FaultReplay
