/-!
# Retired instructions

What a simulator reports when an instruction retires, by what a fault recognises it, and what the
profile log keeps of it.
-/

namespace FaultReplay.Instruction

/-- By what a fault recognises an instruction. -/
structure Identity where
  /-- The hart of the core that retired the instruction. -/
  core : UInt64
  /-- The decoder's name of the instruction. -/
  label : String
  deriving DecidableEq, Repr

/-- A decoded instruction at retirement. -/
structure Retirement where
  label : String
  /-- The encoded size in bytes. -/
  size : UInt64
  core : UInt64
  /-- The values of the registers that the instruction wrote, in decoder order. -/
  registers : List UInt64
  deriving DecidableEq, Repr

/-- One entry of an instruction profile log. -/
structure Entry where
  sequence : UInt64
  identity : Identity
  size : UInt64
  registers : List UInt64
  deriving DecidableEq, Repr

/-- Whether an identity is that of an instruction. -/
def Identity.matches (identity : Identity) (retired : Retirement) : Bool :=
  identity.core == retired.core && identity.label == retired.label

/-- The identity of a retired instruction. -/
def Retirement.identity (retired : Retirement) : Identity :=
  ⟨retired.core, retired.label⟩

theorem Identity.matches_iff {identity : Identity} {retired : Retirement} :
    identity.matches retired = true ↔ identity = retired.identity := by
  cases identity
  simp [Identity.matches, Retirement.identity]

end FaultReplay.Instruction
