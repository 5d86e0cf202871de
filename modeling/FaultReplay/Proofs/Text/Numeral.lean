import FaultReplay.Text.Numeral
import Mathlib.Data.List.Forall2
import Mathlib.Data.List.Induction
import Mathlib.Data.Nat.Digits.Defs

/-!
# What is a numeral

The numerals of a base, said by their digits and the value these have in place notation. They are
exactly what is read, with exactly that value, as long as the value is below the limit: whatever the
digits before it, a number that has reached the limit never comes back below it.
-/

namespace FaultReplay.Numeral

variable {base limit value n : Nat} {cs : List Char}

/-- A row of digits of a base, the first one the most significant, with the number they stand
for. -/
def IsRow (base : Nat) (cs : List Char) (n : Nat) : Prop :=
  ∃ digits, List.Forall₂ (fun c d => digit? base c = some d) cs digits ∧
    Nat.ofDigits base digits.reverse = n

/-- A numeral of a base with its number: at least one digit, perhaps after a plus sign. -/
def IsNumeral (base : Nat) (cs : List Char) (n : Nat) : Prop :=
  cs ≠ [] ∧ IsRow base cs n ∨ ∃ row, row ≠ [] ∧ cs = '+' :: row ∧ IsRow base row n

theorem digit?_plus (base : Nat) : digit? base '+' = none := by
  simp [digit?, digitValue?]

/-- A digit below sixteen is known by its value. -/
theorem digitValue?_eq_some_iff {c : Char} {d : Nat} (small : d < 16) :
    digitValue? c = some d ↔ c = Nat.digitChar d ∨ c = (Nat.digitChar d).toUpper := by
  constructor
  · intro known
    have lower : ∀ d < 16, 10 ≤ d → (Nat.digitChar d).toNat = d + 87 := by decide
    have upper : ∀ d < 16, 10 ≤ d → (Nat.digitChar d).toUpper.toNat = d + 55 := by decide
    unfold digitValue? at known
    split at known
    · rename_i range
      change 48 ≤ c.toNat ∧ c.toNat ≤ 57 at range
      have same := Option.some.inj known
      left
      rw [← Char.toNat_inj, Nat.toNat_digitChar_of_lt_ten (by omega)]
      omega
    split at known
    · rename_i range
      change 97 ≤ c.toNat ∧ c.toNat ≤ 122 at range
      have same := Option.some.inj known
      left
      rw [← Char.toNat_inj, lower d small (by omega)]
      omega
    split at known
    · rename_i range
      change 65 ≤ c.toNat ∧ c.toNat ≤ 90 at range
      have same := Option.some.inj known
      right
      rw [← Char.toNat_inj, upper d small (by omega)]
      omega
    · cases known
  · have upper : ∀ d < 16, digitValue? (Nat.digitChar d).toUpper = some d := by decide
    rintro (rfl | rfl)
    · exact digitValue?_digitChar small
    · exact upper d small

/-- The digits of a base up to sixteen are figures, and letters in either case. -/
theorem digit?_eq_some_iff (base_le : base ≤ 16) {c : Char} {d : Nat} :
    digit? base c = some d ↔
      d < base ∧ (c = Nat.digitChar d ∨ c = (Nat.digitChar d).toUpper) := by
  rw [digit?, Option.filter_eq_some_iff, decide_eq_true_eq, and_comm]
  apply and_congr_right
  intro low
  exact digitValue?_eq_some_iff (Nat.lt_of_lt_of_le low base_le)

/-! ### Rows -/

/-- Every character of a row is a digit. -/
theorem IsRow.exists_digit (h : IsRow base cs n) : ∀ c ∈ cs, ∃ d, digit? base c = some d := by
  obtain ⟨digits, row, -⟩ := h
  intro c mem
  induction row with
  | nil => cases mem
  | cons first _ ih =>
      rcases List.mem_cons.1 mem with rfl | mem
      · exact ⟨_, first⟩
      · exact ih mem

/-- A row stands for one number. -/
theorem IsRow.unique {m : Nat} (h : IsRow base cs n) (other : IsRow base cs m) : m = n := by
  obtain ⟨digits, row, rfl⟩ := h
  obtain ⟨others, rowToo, rfl⟩ := other
  have known : Relator.RightUnique fun c d => digit? base c = some d := fun c d e first second =>
    Option.some.inj (first.symm.trans second)
  rw [known.forall₂ row rowToo]

/-- The last digit of a row moves the number before it up by one place. -/
theorem isRow_concat_iff {c : Char} :
    IsRow base (cs ++ [c]) n ↔
      ∃ m d, IsRow base cs m ∧ digit? base c = some d ∧ base * m + d = n := by
  constructor
  · rintro ⟨digits, row, rfl⟩
    rw [← List.forall₂_reverse_iff, List.reverse_concat, List.forall₂_cons_left_iff] at row
    obtain ⟨d, rest, digit, row, split⟩ := row
    refine ⟨Nat.ofDigits base rest, d, ⟨rest.reverse, ?_, by simp⟩, digit, ?_⟩
    · rwa [← List.forall₂_reverse_iff, List.reverse_reverse]
    · rw [split, Nat.ofDigits_cons, Nat.add_comm]
  · rintro ⟨m, d, ⟨digits, row, rfl⟩, digit, rfl⟩
    refine ⟨digits ++ [d], ?_, ?_⟩
    · rw [← List.forall₂_reverse_iff, List.reverse_concat, List.reverse_concat]
      exact .cons digit (List.forall₂_reverse_iff.2 row)
    · rw [List.reverse_concat, Nat.ofDigits_cons, Nat.add_comm]

/-- A row stands for zero if it has no other digit. -/
theorem isRow_zero_iff (pos : 0 < base) (base_le : base ≤ 16) :
    IsRow base cs 0 ↔ ∃ zeros, cs = List.replicate zeros '0' := by
  have zero (c : Char) : digit? base c = some 0 ↔ c = '0' := by
    rw [digit?_eq_some_iff base_le, and_iff_right pos]
    exact or_self_iff
  induction cs using List.reverseRecOn with
  | nil => exact ⟨fun _ => ⟨0, rfl⟩, fun _ => ⟨[], .nil, rfl⟩⟩
  | append_singleton cs c ih =>
      rw [isRow_concat_iff]
      constructor
      · rintro ⟨m, d, row, digit, total⟩
        obtain ⟨none, rfl⟩ := Nat.add_eq_zero_iff.1 total
        obtain rfl : m = 0 := (Nat.mul_eq_zero.1 none).resolve_left (Nat.ne_of_gt pos)
        obtain ⟨zeros, rfl⟩ := ih.1 row
        obtain rfl := (zero c).1 digit
        exact ⟨zeros + 1, List.replicate_succ'.symm⟩
      · rintro ⟨zeros, same⟩
        have all : ∀ other ∈ cs ++ [c], other = '0' := by
          rw [same]
          exact fun other mem => List.eq_of_mem_replicate mem
        have row : IsRow base cs 0 := by
          refine ih.2 ⟨cs.length, List.eq_replicate_iff.2 ⟨rfl, fun other mem => ?_⟩⟩
          exact all other (List.mem_append_left _ mem)
        exact ⟨0, 0, row, (zero c).2 (all c (by simp)), rfl⟩

/-- A row stands for a number below the base if that is its last digit and only zeros come
before. -/
theorem isRow_concat_iff_of_lt (base_le : base ≤ 16) (low : n < base) {c : Char} :
    IsRow base (cs ++ [c]) n ↔
      (∃ zeros, cs = List.replicate zeros '0') ∧ digit? base c = some n := by
  have pos : 0 < base := Nat.zero_lt_of_lt low
  rw [isRow_concat_iff, ← isRow_zero_iff pos base_le]
  constructor
  · rintro ⟨m, d, row, digit, rfl⟩
    obtain rfl : m = 0 := by
      by_contra some_digit
      have moved : base ≤ base * m := Nat.le_mul_of_pos_right base (Nat.pos_of_ne_zero some_digit)
      omega
    rw [Nat.mul_zero, Nat.zero_add]
    exact ⟨row, digit⟩
  · rintro ⟨row, digit⟩
    exact ⟨0, n, row, digit, by rw [Nat.mul_zero, Nat.zero_add]⟩

/-- The numerals of a number below the base: a sign or none, any zeros, and its digit. -/
theorem isNumeral_iff_of_lt (base_le : base ≤ 16) (low : n < base) :
    IsNumeral base cs n ↔ ∃ sign zeros c, (sign = [] ∨ sign = ['+']) ∧
      cs = sign ++ (List.replicate zeros '0' ++ [c]) ∧ digit? base c = some n := by
  have shape (row : List Char) : row ≠ [] ∧ IsRow base row n ↔
      ∃ zeros c, row = List.replicate zeros '0' ++ [c] ∧ digit? base c = some n := by
    constructor
    · rintro ⟨nonempty, digits⟩
      obtain ⟨before, c, rfl⟩ := (List.eq_nil_or_concat' row).resolve_left nonempty
      obtain ⟨⟨zeros, rfl⟩, digit⟩ := (isRow_concat_iff_of_lt base_le low).1 digits
      exact ⟨zeros, c, rfl, digit⟩
    · rintro ⟨zeros, c, rfl, digit⟩
      exact ⟨by simp, (isRow_concat_iff_of_lt base_le low).2 ⟨⟨zeros, rfl⟩, digit⟩⟩
  constructor
  · rintro (plain | ⟨row, nonempty, rfl, digits⟩)
    · obtain ⟨zeros, c, rfl, digit⟩ := (shape cs).1 plain
      exact ⟨[], zeros, c, Or.inl rfl, rfl, digit⟩
    · obtain ⟨zeros, c, rfl, digit⟩ := (shape row).1 ⟨nonempty, digits⟩
      exact ⟨['+'], zeros, c, Or.inr rfl, rfl, digit⟩
  · rintro ⟨sign, zeros, c, rfl | rfl, rfl, digit⟩
    · exact Or.inl ((shape _).2 ⟨zeros, c, rfl, digit⟩)
    · obtain ⟨nonempty, digits⟩ := (shape _).2 ⟨zeros, c, rfl, digit⟩
      exact Or.inr ⟨_, nonempty, rfl, digits⟩

/-! ### Reading -/

/-- A row of digits makes no number smaller that comes before it. -/
theorem le_of_row {digits : List Nat} (pos : 0 < base) :
    value ≤ base ^ digits.length * value + Nat.ofDigits base digits.reverse :=
  Nat.le_add_right_of_le (Nat.le_mul_of_pos_left value (Nat.pow_pos pos))

/-- The digits that are read onto a number move it up by as many places. -/
theorem readDigits_eq_ok_iff (start : value < limit) :
    readDigits base limit value cs = .ok n ↔
      (∃ digits, List.Forall₂ (fun c d => digit? base c = some d) cs digits ∧
        base ^ digits.length * value + Nat.ofDigits base digits.reverse = n) ∧ n < limit := by
  induction cs generalizing value with
  | nil =>
      rw [readDigits, Except.ok.injEq]
      constructor
      · rintro rfl
        exact ⟨⟨[], .nil, by simp⟩, start⟩
      · rintro ⟨⟨digits, row, total⟩, -⟩
        cases row
        simpa using total
  | cons c cs ih =>
      rw [readDigits]
      cases known : digit? base c with
      | none =>
          simp only [reduceCtorEq, false_iff]
          rintro ⟨⟨digits, row, -⟩, -⟩
          cases row with
          | cons first _ => cases known.symm.trans first
      | some d =>
          have moved (digits : List Nat) :
              base ^ (d :: digits).length * value + Nat.ofDigits base (d :: digits).reverse =
                base ^ digits.length * (base * value + d) +
                  Nat.ofDigits base digits.reverse := by
            rw [Nat.ofDigits_reverse_cons, List.length_cons]
            ring
          by_cases small : base * value + d < limit
          · simp only [if_pos small, ih small]
            constructor
            · rintro ⟨⟨digits, row, total⟩, low⟩
              exact ⟨⟨d :: digits, .cons known row, (moved digits).trans total⟩, low⟩
            · rintro ⟨⟨digits, row, total⟩, low⟩
              cases row with
              | @cons _ other _ rest first row =>
                  obtain rfl := Option.some.inj (known.symm.trans first)
                  exact ⟨⟨rest, row, (moved rest).symm.trans total⟩, low⟩
          · simp only [if_neg small, reduceCtorEq, false_iff]
            rintro ⟨⟨digits, row, total⟩, low⟩
            cases row with
            | @cons _ other _ rest first row =>
                obtain rfl := Option.some.inj (known.symm.trans first)
                have pos : 0 < base := Nat.zero_lt_of_lt (digit?_lt known)
                have reached : base * value + d ≤ n :=
                  ((le_of_row pos).trans_eq (moved rest).symm).trans_eq total
                exact small (Nat.lt_of_le_of_lt reached low)

theorem readDigits_zero_eq_ok_iff (pos : 0 < limit) :
    readDigits base limit 0 cs = .ok n ↔ IsRow base cs n ∧ n < limit := by
  simp only [readDigits_eq_ok_iff pos, Nat.mul_zero, Nat.zero_add, IsRow]

/-- No row begins with a plus sign. -/
theorem not_isRow_plus (row : List Char) : ¬ IsRow base ('+' :: row) n := by
  intro digits
  obtain ⟨d, digit⟩ := digits.exists_digit '+' List.mem_cons_self
  cases (digit?_plus base).symm.trans digit

/-- The numerals of numbers below the limit are what is read. -/
theorem read_eq_ok_iff (pos : 0 < limit) :
    read base limit cs = .ok n ↔ IsNumeral base cs n ∧ n < limit := by
  cases cs with
  | nil => simp [read, IsNumeral]
  | cons c row =>
      by_cases plus : c = '+'
      · subst plus
        cases row with
        | nil => simp [read, IsNumeral, not_isRow_plus]
        | cons first row =>
            have unsigned : read base limit ('+' :: first :: row) =
                readDigits base limit 0 (first :: row) := rfl
            rw [unsigned, readDigits_zero_eq_ok_iff pos]
            simp [IsNumeral, not_isRow_plus]
      · rw [read_cons_of_ne plus, readDigits_zero_eq_ok_iff pos]
        simp [IsNumeral, plus]

end FaultReplay.Numeral
