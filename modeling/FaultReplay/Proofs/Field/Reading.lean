import FaultReplay.Proofs.Field
import FaultReplay.Proofs.Text.Numeral
import FaultReplay.Proofs.Text.Reading

/-!
# Fields that are read

Which texts are numbers and flags, and which ones: a number field is a decimal numeral, or a
hexadecimal one after `0x` or `0X`, below the limit of 64 bits, and a flag has two spellings for
each of its values.
-/

namespace FaultReplay.Field

open Numeral (IsNumeral IsRow digit?)

variable {value : UInt64} {name field : String} {cs : List Char}

/-- The texts of a number of 64 bits. -/
inductive IsNumber (value : UInt64) : List Char → Prop
  | decimal {cs : List Char} (numeral : IsNumeral 10 cs value.toNat) : IsNumber value cs
  | hexadecimal {cs : List Char} (sign : Char) (signed : sign = 'x' ∨ sign = 'X')
      (numeral : IsNumeral 16 cs value.toNat) : IsNumber value ('0' :: sign :: cs)

/-- The spellings of a flag. -/
def spellings : Bool → List String
  | true => ["1", "true"]
  | false => ["0", "false"]

/-- A decimal numeral is not taken for one with the sign of another base. -/
theorem base_of_isNumeral {n : Nat} (numeral : IsNumeral 10 cs n) : base cs = (10, cs) := by
  have plain {sign : Char} (signed : sign = 'x' ∨ sign = 'X') {more : List Char}
      (same : cs = '0' :: sign :: more) : False := by
    subst same
    rcases numeral with ⟨-, row⟩ | ⟨row, -, plus, -⟩
    · obtain ⟨d, digit⟩ := row.exists_digit sign (by simp)
      have other : digit? 10 sign = none := by
        rcases signed with rfl | rfl <;> decide
      cases other.symm.trans digit
    · simp at plus
  unfold base
  split
  · exact (plain (Or.inl rfl) rfl).elim
  · exact (plain (Or.inr rfl) rfl).elim
  · rfl

theorem read_toNat_eq_ok_iff {radix : Nat} :
    Numeral.read radix UInt64.size cs = .ok value.toNat ↔ IsNumeral radix cs value.toNat := by
  rw [Numeral.read_eq_ok_iff (by decide)]
  exact and_iff_left value.toNat_lt

/-- A field is a number exactly if what follows the sign of its base is a numeral. -/
theorem number_eq_ok_iff_isNumeral :
    number name field = .ok value ↔
      IsNumeral (base field.toList).1 (base field.toList).2 value.toNat := by
  simp only [← read_toNat_eq_ok_iff, number]
  cases answer : Numeral.read (base field.toList).1 UInt64.size (base field.toList).2 with
  | error problem => simp
  | ok n =>
      have low : n < UInt64.size := Numeral.read_lt (by decide) answer
      simp only [Except.ok.injEq]
      constructor
      · rintro rfl
        exact (UInt64.toNat_ofNat_of_lt' low).symm
      · rintro rfl
        exact UInt64.ofNat_toNat

/-- A field is a number exactly if it has one of its texts. -/
theorem number_eq_ok_iff : number name field = .ok value ↔ IsNumber value field.toList := by
  rw [number_eq_ok_iff_isNumeral]
  generalize field.toList = cs
  constructor
  · intro numeral
    unfold base at numeral
    split at numeral
    · exact .hexadecimal 'x' (Or.inl rfl) numeral
    · exact .hexadecimal 'X' (Or.inr rfl) numeral
    · exact .decimal numeral
  · intro h
    cases h with
    | decimal numeral => rwa [base_of_isNumeral numeral]
    | hexadecimal sign signed numeral =>
        rcases signed with rfl | rfl
        · exact numeral
        · exact numeral

/-- A field is a byte exactly if it is a number that fits in one. -/
theorem byte_eq_ok_iff {b : UInt8} :
    byte name field = .ok b ↔ IsNumber b.toUInt64 field.toList := by
  have spelled : number name field = .ok b.toUInt64 ↔ IsNumber b.toUInt64 field.toList :=
    number_eq_ok_iff
  rw [← spelled, byte]
  cases read : number name field with
  | error e => simp
  | ok value =>
      simp only [Except.ok.injEq]
      constructor
      · intro h
        split at h
        · rename_i narrow
          cases h
          rw [UInt64.le_iff_toNat_le] at narrow
          apply UInt64.toNat_inj.1
          rw [UInt8.toNat_toUInt64, UInt64.toNat_toUInt8]
          exact (Nat.mod_eq_of_lt (Nat.lt_succ_of_le narrow)).symm
        · cases h
      · rintro rfl
        rw [if_pos b.toUInt64_le_255, UInt8.toUInt8_toUInt64]

/-- Fields are a row of numbers exactly if each of them is one. -/
theorem mapM_number_eq_ok_iff {fields : List String} {values : List UInt64} :
    fields.mapM (number name) = .ok values ↔
      List.Forall₂ (fun field value => IsNumber value field.toList) fields values := by
  rw [Except.mapM_eq_ok_iff_forall₂]
  simp only [number_eq_ok_iff]

/-- A figure or a letter is no blank. -/
theorem isBlank_of_digit? {radix d : Nat} {c : Char} (h : digit? radix c = some d) :
    Text.isBlank c = false := by
  obtain ⟨known, -⟩ := Option.filter_eq_some_iff.1 h
  have range : 48 ≤ c.toNat ∧ c.toNat ≤ 57 ∨ 97 ≤ c.toNat ∧ c.toNat ≤ 122 ∨
      65 ≤ c.toNat ∧ c.toNat ≤ 90 := by
    unfold Numeral.digitValue? at known
    split at known
    · exact Or.inl ‹_›
    split at known
    · exact Or.inr (Or.inl ‹_›)
    split at known
    · exact Or.inr (Or.inr ‹_›)
    · cases known
  simp only [Text.isBlank, Bool.or_eq_false_iff, Bool.and_eq_false_iff, decide_eq_false_iff_not,
    beq_eq_false_iff_ne]
  omega

theorem isBlank_of_isNumeral {radix n : Nat} (h : IsNumeral radix cs n) :
    cs ≠ [] ∧ ∀ c ∈ cs, Text.isBlank c = false := by
  have solid {row : List Char} (h : IsRow radix row n) : ∀ c ∈ row, Text.isBlank c = false := by
    intro c mem
    obtain ⟨d, digit⟩ := h.exists_digit c mem
    exact isBlank_of_digit? digit
  rcases h with ⟨nonempty, row⟩ | ⟨row, -, rfl, digits⟩
  · exact ⟨nonempty, solid row⟩
  · refine ⟨List.cons_ne_nil _ _, ?_⟩
    intro c mem
    rcases List.mem_cons.1 mem with rfl | mem
    · decide
    · exact solid digits c mem

/-- A number is written as one word. -/
theorem IsNumber.isWord (h : IsNumber value field.toList) : Text.IsWord field := by
  have solid : field.toList ≠ [] ∧ ∀ c ∈ field.toList, Text.isBlank c = false := by
    generalize field.toList = cs at h
    cases h with
    | decimal numeral => exact isBlank_of_isNumeral numeral
    | hexadecimal sign signed numeral =>
        refine ⟨List.cons_ne_nil _ _, ?_⟩
        simp only [List.forall_mem_cons]
        refine ⟨by decide, ?_, (isBlank_of_isNumeral numeral).2⟩
        rcases signed with rfl | rfl <;> decide
  refine ⟨?_, solid.2⟩
  rintro rfl
  exact solid.1 rfl

theorem flag_eq_ok_iff {b : Bool} : flag name field = .ok b ↔ field ∈ spellings b := by
  unfold flag
  by_cases on : field = "1" ∨ field = "true"
  · rw [if_pos on]
    cases b
    · rcases on with rfl | rfl <;> simp [spellings]
    · simpa [spellings] using on
  · rw [if_neg on]
    by_cases off : field = "0" ∨ field = "false"
    · rw [if_pos off]
      cases b
      · simpa [spellings] using off
      · simpa [spellings] using on
    · rw [if_neg off]
      cases b
      · simpa [spellings] using off
      · simpa [spellings] using on

end FaultReplay.Field
