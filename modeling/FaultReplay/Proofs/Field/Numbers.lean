import FaultReplay.Proofs.Field.Reading
import FaultReplay.Proofs.Text.Spoiling

/-!
# Numbers to the letter

What a number field is read as, for every text: its base is told by how it begins, what follows is a
numeral of that base below the limit of 64 bits or is refused, and the reason is that of the first
thing that is wrong with it.
-/

namespace FaultReplay.Field

open Numeral (IsNumeral Refused decimal digit? hexadecimal)

variable {cs rest : List Char} {radix : Nat} {name field : String} {value : UInt64} {e : Error}

/-- The base that a text is written in, and what follows the sign of that base: sixteen after `0x`
or `0X`, and otherwise ten. -/
inductive WrittenIn : List Char → Nat → List Char → Prop
  | hexadecimal {sign : Char} (signed : sign = 'x' ∨ sign = 'X') (cs : List Char) :
      WrittenIn ('0' :: sign :: cs) 16 cs
  | decimal {cs : List Char}
      (plain : ∀ sign rest, cs = '0' :: sign :: rest → sign ≠ 'x' ∧ sign ≠ 'X') :
      WrittenIn cs 10 cs

theorem writtenIn_base (cs : List Char) : WrittenIn cs (base cs).1 (base cs).2 := by
  unfold base
  split
  · exact .hexadecimal (Or.inl rfl) _
  · exact .hexadecimal (Or.inr rfl) _
  · rename_i lower upper
    refine .decimal ?_
    rintro sign rest rfl
    constructor
    · rintro rfl
      exact lower rest rfl
    · rintro rfl
      exact upper rest rfl

/-- What is not read as a number is refused for what is wrong with it. -/
theorem number_eq_error_iff :
    number name field = .error e ↔ ∃ problem,
      Refused (base field.toList).1 UInt64.size (base field.toList).2 problem ∧
        e = .badNumber name field problem := by
  simp only [← Numeral.read_eq_error_iff (show 0 < UInt64.size by decide), number]
  cases answer : Numeral.read (base field.toList).1 UInt64.size (base field.toList).2 with
  | error problem => simp [eq_comm]
  | ok n => simp

/-- A number is read from its hexadecimal form after the sign of that base. -/
theorem number_hexadecimal (name : String) (n : UInt64) :
    number name ("0x" ++ hexadecimal n.toNat) = .ok n := by
  have digits : ("0x" ++ hexadecimal n.toNat).toList = '0' :: 'x' :: Nat.toDigits 16 n.toNat := by
    simp [hexadecimal]
  have read : Numeral.read 16 UInt64.size (Nat.toDigits 16 n.toNat) = .ok n.toNat :=
    Numeral.read_toDigits (by decide) (by decide) n.toNat_lt
  rw [number_eq_ok_iff_isNumeral, digits]
  exact read_toNat_eq_ok_iff.1 read

/-- A field is the number whose numeral below the limit of 64 bits stands in it, and otherwise it is
refused for the first thing that is wrong with it. -/
theorem number_exact (name field : String) :
    (∃ radix cs, WrittenIn field.toList radix cs ∧
      (∀ value, number name field = .ok value ↔ IsNumeral radix cs value.toNat) ∧
      (∀ e, number name field = .error e ↔
        ∃ problem, Refused radix (2 ^ 64) cs problem ∧ e = .badNumber name field problem) ∧
      ((∃ value : UInt64, IsNumeral radix cs value.toNat) ∨
        ∃ problem, Refused radix (2 ^ 64) cs problem) ∧
      (number name field = .error (.badNumber name field .empty) ↔ cs = [])) ∧
    (∀ problem, (Error.badNumber name field problem).kind = .configuration ∧
      (Error.badNumber name field problem).message =
        "Invalid " ++ name ++ " " ++ Text.quote field ++ ": " ++
          match problem with
          | .empty => "cannot parse integer from empty string"
          | .invalidDigit => "invalid digit found in string"
          | .tooLarge => "number too large to fit in target type") ∧
    (∀ radix ≤ 16, ∀ c d, digit? radix c = some d ↔
      d < radix ∧ (c = Nat.digitChar d ∨ c = (Nat.digitChar d).toUpper)) ∧
    ∀ n : UInt64, number name (decimal n.toNat) = .ok n ∧
      number name ("0x" ++ hexadecimal n.toNat) = .ok n := by
  refine ⟨⟨_, _, writtenIn_base field.toList, ?_, ?_, ?_, ?_⟩, ?_, ?_, ?_⟩
  · exact fun value => number_eq_ok_iff_isNumeral
  · exact fun e => number_eq_error_iff
  · have pos : 0 < UInt64.size := by decide
    obtain ⟨n, low, numeral⟩ | refused :=
      Numeral.isNumeral_or_refused pos (base field.toList).2
    · left
      refine ⟨UInt64.ofNat n, ?_⟩
      rwa [UInt64.toNat_ofNat_of_lt' low]
    · exact Or.inr refused
  · rw [number_eq_error_iff, ← Numeral.refused_empty_iff]
    constructor
    · rintro ⟨problem, refused, ⟨⟩⟩
      exact refused
    · intro refused
      exact ⟨.empty, refused, rfl⟩
  · intro problem
    cases problem with
    | empty => exact ⟨rfl, rfl⟩
    | invalidDigit => exact ⟨rfl, rfl⟩
    | tooLarge => exact ⟨rfl, rfl⟩
  · exact fun radix small c d => Numeral.digit?_eq_some_iff small
  · exact fun n => ⟨number_decimal name n, number_hexadecimal name n⟩

/-- The number has become too large before the letter is reached, which is no digit in base ten and
one in base sixteen. -/
theorem number_exact_large_before_letter :
    number "mask" "18446744073709551616F" =
        .error (.badNumber "mask" "18446744073709551616F" .tooLarge) ∧
      digit? 10 'F' = none ∧ digit? 16 'F' = some 15 := by
  obtain ⟨⟨radix, cs, written, -, errors, -⟩, -, digits, -⟩ :=
    number_exact "mask" "18446744073709551616F"
  have text : "18446744073709551616F".toList = "1844674407370955161".toList ++ ['6', 'F'] := by
    decide +kernel
  have start : "1844674407370955161".toList = '1' :: "844674407370955161".toList := by
    decide +kernel
  have before : Numeral.IsRow 10 "1844674407370955161".toList 1844674407370955161 :=
    ((Numeral.readDigits_zero_eq_ok_iff (Nat.two_pow_pos 64)).1 (by decide +kernel)).1
  have longer : Numeral.IsRow 10 ("1844674407370955161".toList ++ ['6']) (2 ^ 64) :=
    Numeral.isRow_concat_iff.2 ⟨_, 6, before, by decide, by decide⟩
  have unspoiled : Numeral.Unspoiled 10 (2 ^ 64) "1844674407370955161".toList :=
    (Numeral.unspoiled_iff (Nat.two_pow_pos 64)).2 ⟨_, before, by decide⟩
  have large : Refused 10 (2 ^ 64) "18446744073709551616F".toList .tooLarge :=
    .unsigned (by decide +kernel)
      ⟨_, '6', ['F'], text, unspoiled, .large longer (Nat.le_refl _)⟩
  refine ⟨?_, by decide, (digits 16 (Nat.le_refl 16) 'F' 15).2 ⟨by decide, Or.inr rfl⟩⟩
  rw [text, start] at written
  cases written with
  | decimal =>
      rw [text, start] at large
      exact (errors _).2 ⟨.tooLarge, large, rfl⟩

/-- Zeros do not count, and neither case does. -/
example : number "mask" "0X+000000000000000000fF" = .ok 255 := by decide +kernel

end FaultReplay.Field
