import FaultReplay.Error
import FaultReplay.Text.Blank

/-!
# Modes

What a domain does with its events. A mode is configured as a text: a number, `0` or `1`, or a name.
-/

namespace FaultReplay

/-- What a domain does with its events. -/
inductive Mode where
  /-- Counts them. -/
  | disabled
  /-- Counts them and appends a line to the profile log for each. -/
  | profile
  /-- Counts them and corrupts those that the plan names. -/
  | inject
  deriving DecidableEq, Repr

namespace Mode

/-- The name of a mode. -/
def name : Mode → String
  | disabled => "disabled"
  | profile => "profile"
  | inject => "inject"

/-- The mode a number stands for. -/
def ofNat? : Nat → Option Mode
  | 0 => some profile
  | 1 => some inject
  | _ => none

/-- The mode a name stands for. No name turns a domain off. -/
def ofName? (name : String) : Option Mode :=
  if name = "profile" then some profile
  else if name = "inject" then some inject
  else none

/-- The mode that a text without blanks at its ends stands for. A text that is a number of eight
bits is never looked up as a name. -/
def ofText? (text : String) : Option Mode :=
  match Numeral.read 10 256 text.toList with
  | .ok n => ofNat? n
  | .error _ => ofName? text

/-- The mode of a configured value. Without a value the domain is off. -/
def resolve : Option String → Except Error Mode
  | none => .ok disabled
  | some value =>
    match ofText? (Text.trim value) with
    | some mode => .ok mode
    | none => .error (.unknownMode value)

end Mode

end FaultReplay
