import FaultReplay.Mode
import FaultReplay.Proofs.Text.Numeral
import FaultReplay.Proofs.Text.Trimming

/-!
# Which texts are modes

A mode is configured by its name or by its number, 0 or 1, which may have a plus sign and any zeros
in front, with blanks around it. No other text is a mode, and none turns a domain off.
-/

namespace FaultReplay.Mode

open Numeral (IsNumeral)

variable {mode : Mode} {text : String} {cs : List Char} {n : Nat}

/-- The texts of a mode, without blanks at their ends. -/
inductive Spelled : Mode → List Char → Prop
  | profileName : Spelled .profile "profile".toList
  | injectName : Spelled .inject "inject".toList
  | zero {sign : List Char} (signed : sign = [] ∨ sign = ['+']) (zeros : Nat) :
      Spelled .profile (sign ++ List.replicate (zeros + 1) '0')
  | one {sign : List Char} (signed : sign = [] ∨ sign = ['+']) (zeros : Nat) :
      Spelled .inject (sign ++ (List.replicate zeros '0' ++ ['1']))

/-- The decimal numerals of a number of one figure. -/
theorem isNumeral_ten_iff (low : n < 10) :
    IsNumeral 10 cs n ↔ ∃ sign zeros, (sign = [] ∨ sign = ['+']) ∧
      cs = sign ++ (List.replicate zeros '0' ++ [Nat.digitChar n]) := by
  have same : ∀ n < 10, (Nat.digitChar n).toUpper = Nat.digitChar n := by decide
  rw [Numeral.isNumeral_iff_of_lt (by decide) low]
  constructor
  · rintro ⟨sign, zeros, c, signed, rfl, digit⟩
    obtain ⟨-, figure⟩ := (Numeral.digit?_eq_some_iff (by decide)).1 digit
    rw [same n low, or_self_iff] at figure
    exact ⟨sign, zeros, signed, by rw [figure]⟩
  · rintro ⟨sign, zeros, signed, rfl⟩
    exact ⟨sign, zeros, _, signed, rfl, Numeral.digit?_digitChar (by decide) low⟩

/-- A text that is a number of eight bits is the mode of that number. -/
theorem ofText?_of_isNumeral (numeral : IsNumeral 10 text.toList n) (low : n < 256) :
    ofText? text = ofNat? n := by
  have read := (Numeral.read_eq_ok_iff (by decide : 0 < 256)).2 ⟨numeral, low⟩
  rw [ofText?, read]

/-- The numerals of a mode's number are spellings of the mode. -/
theorem spelled_of_isNumeral (numeral : IsNumeral 10 cs n) (known : ofNat? n = some mode) :
    Spelled mode cs := by
  unfold ofNat? at known
  split at known
  · cases known
    obtain ⟨sign, zeros, signed, rfl⟩ := (isNumeral_ten_iff (by decide)).1 numeral
    have row : List.replicate zeros '0' ++ [Nat.digitChar 0] = List.replicate (zeros + 1) '0' :=
      List.replicate_succ'.symm
    rw [row]
    exact .zero signed zeros
  · cases known
    obtain ⟨sign, zeros, signed, rfl⟩ := (isNumeral_ten_iff (by decide)).1 numeral
    exact .one signed zeros
  · cases known

/-- A text is a mode exactly if it is one of its spellings. -/
theorem ofText?_eq_some_iff : ofText? text = some mode ↔ Spelled mode text.toList := by
  constructor
  · intro known
    unfold ofText? at known
    split at known
    · rename_i n read
      exact spelled_of_isNumeral ((Numeral.read_eq_ok_iff (by decide)).1 read).1 known
    unfold ofName? at known
    split at known
    · rename_i name
      cases known
      rw [name]
      exact .profileName
    split at known
    · rename_i name
      cases known
      rw [name]
      exact .injectName
    · cases known
  · intro spelled
    generalize same : text.toList = cs at spelled
    cases spelled with
    | profileName =>
        obtain rfl := String.toList_inj.1 same
        decide +kernel
    | injectName =>
        obtain rfl := String.toList_inj.1 same
        decide +kernel
    | @zero sign signed zeros =>
        have numeral : IsNumeral 10 text.toList 0 :=
          (isNumeral_ten_iff (by decide)).2
            ⟨sign, zeros, signed, by rw [same, List.replicate_succ']; rfl⟩
        exact ofText?_of_isNumeral numeral (by decide)
    | @one sign signed zeros =>
        have numeral : IsNumeral 10 text.toList 1 :=
          (isNumeral_ten_iff (by decide)).2 ⟨sign, zeros, signed, same⟩
        exact ofText?_of_isNumeral numeral (by decide)

/-- A configured value is the mode that its core spells. -/
theorem resolve_eq_ok_iff {value : String} :
    resolve (some value) = .ok mode ↔ Spelled mode (Text.trim value).toList := by
  rw [← ofText?_eq_some_iff, resolve]
  cases ofText? (Text.trim value) with
  | none => simp
  | some found => simp

/-- A configured value that spells no mode is refused. -/
theorem resolve_eq_error_iff {value : String} {e : Error} :
    resolve (some value) = .error e ↔
      (∀ mode, ¬ Spelled mode (Text.trim value).toList) ∧ e = .unknownMode value := by
  simp only [← ofText?_eq_some_iff, resolve]
  cases ofText? (Text.trim value) with
  | none => simp [eq_comm]
  | some found => simp

theorem not_spelled_disabled : ¬ Spelled .disabled cs := nofun

end FaultReplay.Mode
