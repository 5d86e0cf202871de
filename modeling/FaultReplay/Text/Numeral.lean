/-!
# Numerals

Unsigned numbers as text. A numeral is a nonempty row of digits, perhaps after one plus sign. It is
read from the left and the first digit that spoils it is the one reported: a character that is no
digit of the base, or a digit at which the number reaches the limit.
-/

namespace FaultReplay.Numeral

/-- What keeps a text from being a numeral below a limit. -/
inductive Problem where
  | empty
  | invalidDigit
  | tooLarge
  deriving DecidableEq, Repr

/-- The value of a figure or of a letter in either case. -/
def digitValue? (c : Char) : Option Nat :=
  if '0' ≤ c ∧ c ≤ '9' then some (c.toNat - 48)
  else if 'a' ≤ c ∧ c ≤ 'z' then some (c.toNat - 87)
  else if 'A' ≤ c ∧ c ≤ 'Z' then some (c.toNat - 55)
  else none

/-- The value of a character as a digit of the base. -/
def digit? (base : Nat) (c : Char) : Option Nat :=
  (digitValue? c).filter (· < base)

theorem digit?_lt {base n : Nat} {c : Char} (h : digit? base c = some n) : n < base := by
  simpa using (Option.filter_eq_some_iff.1 h).2

/-- Reads the remaining digits onto the number read so far. -/
def readDigits (base limit : Nat) : Nat → List Char → Except Problem Nat
  | value, [] => .ok value
  | value, c :: cs =>
    match digit? base c with
    | none => .error .invalidDigit
    | some d =>
      if base * value + d < limit then readDigits base limit (base * value + d) cs
      else .error .tooLarge

/-- Reads a numeral. A sign alone is reported as a bad digit, and so is every minus sign. -/
def read (base limit : Nat) : List Char → Except Problem Nat
  | [] => .error .empty
  | ['+'] => .error .invalidDigit
  | '+' :: cs => readDigits base limit 0 cs
  | cs => readDigits base limit 0 cs

theorem readDigits_lt {base limit value n : Nat} {cs : List Char} (start : value < limit)
    (h : readDigits base limit value cs = .ok n) : n < limit := by
  induction cs generalizing value with
  | nil =>
    cases h
    exact start
  | cons c cs ih =>
    rw [readDigits] at h
    split at h
    · cases h
    · split at h
      · exact ih ‹_› h
      · cases h

/-- Only numbers below the limit are read. -/
theorem read_lt {base limit n : Nat} {cs : List Char} (pos : 0 < limit)
    (h : read base limit cs = .ok n) : n < limit := by
  unfold read at h
  split at h
  · cases h
  · cases h
  · exact readDigits_lt pos h
  · exact readDigits_lt pos h

theorem read_cons_of_ne {base limit : Nat} {c : Char} (h : c ≠ '+') (cs : List Char) :
    read base limit (c :: cs) = readDigits base limit 0 (c :: cs) := by
  simp [read, h]

theorem readDigits_append (base limit value : Nat) (cs ds : List Char) :
    readDigits base limit value (cs ++ ds) =
      (readDigits base limit value cs).bind fun value => readDigits base limit value ds := by
  induction cs generalizing value with
  | nil => rfl
  | cons c cs ih =>
    rw [List.cons_append, readDigits, readDigits]
    cases digit? base c with
    | none => rfl
    | some d =>
      by_cases small : base * value + d < limit
      · simp only [if_pos small, ih]
      · simp only [if_neg small]
        rfl

theorem digitValue?_digitChar {d : Nat} (h : d < 16) : digitValue? (Nat.digitChar d) = some d := by
  revert d
  decide

theorem digit?_digitChar {base d : Nat} (base_le : base ≤ 16) (h : d < base) :
    digit? base (Nat.digitChar d) = some d := by
  simp [digit?, digitValue?_digitChar (Nat.lt_of_lt_of_le h base_le), h]

theorem readDigits_toDigits {base limit n : Nat} (one_lt : 1 < base) (base_le : base ≤ 16)
    (h : n < limit) : readDigits base limit 0 (Nat.toDigits base n) = .ok n := by
  induction n using Nat.base_induction base one_lt with
  | single m hm =>
    simp [Nat.toDigits_of_lt_base hm, readDigits, digit?_digitChar base_le hm, h]
  | digit m k hk hm ih =>
    have small : m < limit :=
      Nat.lt_of_le_of_lt (Nat.le_trans (Nat.le_mul_of_pos_left m (Nat.lt_trans Nat.one_pos one_lt))
        (Nat.le_add_right _ _)) h
    rw [← Nat.toDigits_append_toDigits one_lt hm hk, readDigits_append, ih small]
    simp [Except.bind, Nat.toDigits_of_lt_base hk, readDigits, digit?_digitChar base_le hk, h]

/-- A number below the limit is read from its digits. -/
theorem read_toDigits {base limit n : Nat} (one_lt : 1 < base) (base_le : base ≤ 16)
    (h : n < limit) : read base limit (Nat.toDigits base n) = .ok n := by
  have digits := readDigits_toDigits one_lt base_le h
  obtain ⟨c, cs, split⟩ := List.exists_cons_of_ne_nil (Nat.toDigits_ne_nil (n := n) (b := base))
  rw [split] at digits ⊢
  have unsigned : c ≠ '+' := by
    rintro rfl
    have none : digit? base '+' = none := by simp [digit?, digitValue?]
    simp [readDigits, none] at digits
  rw [read_cons_of_ne unsigned, digits]

/-- The number in base ten, without leading zeros. -/
def decimal (n : Nat) : String :=
  String.ofList (Nat.toDigits 10 n)

/-- The number in base sixteen in lower case, without leading zeros. -/
def hexadecimal (n : Nat) : String :=
  String.ofList (Nat.toDigits 16 n)

end FaultReplay.Numeral
