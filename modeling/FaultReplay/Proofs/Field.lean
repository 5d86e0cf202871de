import FaultReplay.Field
import FaultReplay.Proofs.Except

/-!
# Written fields

Numbers, bytes and rows of numbers are read back from their decimal forms, and what is no number is
refused under the name of its field.
-/

/-- A byte stays below 256 as a number of 64 bits. -/
theorem UInt8.toUInt64_le_255 (b : UInt8) : b.toUInt64 ≤ 255 := by
  rw [UInt64.le_iff_toNat_le, UInt8.toNat_toUInt64]
  exact Nat.le_of_lt_succ b.toNat_lt

namespace FaultReplay.Field

open Numeral (decimal)

/-- A byte is read from its decimal form. -/
theorem byte_decimal (name : String) (b : UInt8) : byte name (decimal b.toNat) = .ok b := by
  have read : number name (decimal b.toNat) = .ok b.toUInt64 := by
    rw [← UInt8.toNat_toUInt64, number_decimal]
  simp only [byte, read, if_pos b.toUInt64_le_255, UInt8.toUInt8_toUInt64]

/-- A count below the limit of 64 bits is read from its decimal form. -/
theorem number_decimal_of_lt (name : String) {n : Nat} (h : n < UInt64.size) :
    number name (decimal n) = .ok (UInt64.ofNat n) := by
  have same : (UInt64.ofNat n).toNat = n := UInt64.toNat_ofNat_of_lt' h
  calc
    number name (decimal n) = number name (decimal (UInt64.ofNat n).toNat) := by rw [same]
    _ = .ok (UInt64.ofNat n) := number_decimal name _

/-- Numbers in a row are read from their decimal forms. -/
theorem mapM_number_decimal (name : String) (values : List UInt64) :
    (values.map fun value => decimal value.toNat).mapM (number name) = .ok values :=
  Except.mapM_map_of_read fun value _ => number_decimal name value

/-! ### Fields that are refused -/

/-- A number is refused under its name and with what stood there. -/
theorem number_fails (name field : String) :
    (number name field).FailsWith fun e => ∃ problem, e = .badNumber name field problem := by
  unfold number
  split
  split
  · exact .ok _
  · exact .error ⟨_, rfl⟩

theorem byte_fails (name field : String) :
    (byte name field).FailsWith fun e =>
      (∃ problem, e = .badNumber name field problem) ∨ e = .wideField name field := by
  unfold byte
  split
  · rename_i e failed
    exact .error (Or.inl (number_fails name field e failed))
  · split
    · exact .ok _
    · exact .error (Or.inr rfl)

end FaultReplay.Field
