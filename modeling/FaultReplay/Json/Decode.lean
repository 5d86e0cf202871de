import FaultReplay.Error
import FaultReplay.Json.Value

/-!
# Reading JSON values

What a JSON value stands for where a text, a number or a record is asked for. A record is an object
with each known key at most once, in any order and among other keys, or the array of its fields in
order.
-/

namespace FaultReplay.Json

/-- Why a text is not taken for a value. -/
inductive Refusal where
  /-- The text is no JSON of the shape that is asked for. -/
  | malformed
  /-- The text has the shape, and what it describes is refused. -/
  | rejected (cause : Error)
  deriving DecidableEq, Repr

namespace Value

/-- A text as a value. -/
def ofText (text : String) : Value :=
  .string (some text)

/-- A number as a value. -/
def ofNat (n : Nat) : Value :=
  .number (some n)

/-- What is there, or null. -/
def ofOption {α : Type} (write : α → Value) : Option α → Value
  | none => .null
  | some a => write a

/-- An object with these members. -/
def ofMembers (members : List (String × Value)) : Value :=
  .object (members.map fun member => (some member.1, member.2))

/-- The text that a value stands for. -/
def text? : Value → Option String
  | .string text => text
  | _ => none

/-- The truth value that a value stands for. -/
def bool? : Value → Option Bool
  | .bool value => some value
  | _ => none

/-- The number below a limit that a value stands for. -/
def natBelow? (limit : Nat) : Value → Option Nat
  | .number (some n) => if n < limit then some n else none
  | _ => none

/-- The number of 64 bits that a value stands for. -/
def uint64? (value : Value) : Option UInt64 :=
  (value.natBelow? UInt64.size).map UInt64.ofNat

/-- The byte that a value stands for. -/
def uint8? (value : Value) : Option UInt8 :=
  (value.natBelow? UInt8.size).map UInt8.ofNat

/-- What a value that may be missing or null stands for. -/
def optional? {α : Type} (read : Value → Option α) : Option Value → Option (Option α)
  | none => some none
  | some .null => some none
  | some value => (read value).map some

/-- The items of an array. -/
def items? : Value → Option (List Value)
  | .array items => some items
  | _ => none

/-- How often a key occurs among members. -/
def occurrences (key : String) (members : List (Option String × Value)) : Nat :=
  members.countP fun member => member.1 == some key

/-- The values of a record's fields, by the names in the order of the fields. An array may leave out
fields at its end down to the least number. -/
def fields? (names : List String) (least : Nat) : Value → Option (List (Option Value))
  | .object members =>
    if members.all (fun member => member.1.isSome) ∧
        names.all (fun name => occurrences name members ≤ 1) then
      some (names.map fun name => members.lookup (some name))
    else none
  | .array items =>
    if least ≤ items.length ∧ items.length ≤ names.length then
      some (items.map some ++ List.replicate (names.length - items.length) none)
    else none
  | _ => none

/-- The values of a record's fields, none of which may be missing. -/
def allFields? (names : List String) (value : Value) : Option (List Value) := do
  let fields ← value.fields? names names.length
  fields.mapM id

end Value

end FaultReplay.Json
