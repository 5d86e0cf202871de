import FaultReplay.Error

/-!
# Fields

The values that stand in the fields of plans and logs: numbers, bytes and flags.
-/

namespace FaultReplay.Field

/-- The base of a number and what remains of it after the sign of its base. -/
def base : List Char → Nat × List Char
  | '0' :: 'x' :: digits => (16, digits)
  | '0' :: 'X' :: digits => (16, digits)
  | digits => (10, digits)

/-- Reads a number of 64 bits: decimal, or hexadecimal after `0x` or `0X`. -/
def number (name field : String) : Except Error UInt64 :=
  let (base, digits) := base field.toList
  match Numeral.read base UInt64.size digits with
  | .ok value => .ok (UInt64.ofNat value)
  | .error problem => .error (.badNumber name field problem)

/-- A decimal number has no sign of another base. -/
theorem base_toDigits (n : Nat) : base (Nat.toDigits 10 n) = (10, Nat.toDigits 10 n) := by
  have digits : ∀ c ∈ Nat.toDigits 10 n, c.isDigit = true := fun c hc =>
    Nat.isDigit_of_mem_toDigits (by decide) (by decide) hc
  unfold base
  split
  · rename_i same
    simp [same] at digits
  · rename_i same
    simp [same] at digits
  · rfl

/-- A number is read from its decimal form. -/
theorem number_decimal (name : String) (n : UInt64) :
    number name (Numeral.decimal n.toNat) = .ok n := by
  have read : Numeral.read 10 UInt64.size (Nat.toDigits 10 n.toNat) = .ok n.toNat :=
    Numeral.read_toDigits (by decide) (by decide) n.toNat_lt
  simp only [number, Numeral.decimal, String.toList_ofList, base_toDigits, read]
  simp

/-- Reads a number that fits in a byte. -/
def byte (name field : String) : Except Error UInt8 :=
  match number name field with
  | .error e => .error e
  | .ok value => if value ≤ 255 then .ok value.toUInt8 else .error (.wideField name field)

/-- Reads a flag. -/
def flag (name field : String) : Except Error Bool :=
  if field = "1" ∨ field = "true" then .ok true
  else if field = "0" ∨ field = "false" then .ok false
  else .error (.badFlag name field)

end FaultReplay.Field
