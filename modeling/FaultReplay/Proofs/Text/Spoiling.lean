import FaultReplay.Proofs.Text.Numeral

/-!
# Texts that are no numerals

A text is no numeral below a limit because it is empty, because it is a sign alone, or because some
character spoils it: one that is no digit, or one with which the number reaches the limit. The first
of these characters is the one that is reported, whatever comes after it.
-/

namespace FaultReplay.Numeral

variable {base limit value n : Nat} {cs before : List Char} {c : Char} {problem : Problem}

/-- A character spoils what stands before it: it is no digit of the base, or the number up to it has
reached the limit. -/
inductive Spoils (base limit : Nat) (before : List Char) (c : Char) : Problem → Prop
  | foreign (other : digit? base c = none) : Spoils base limit before c .invalidDigit
  | large {n : Nat} (row : IsRow base (before ++ [c]) n) (reached : limit ≤ n) :
      Spoils base limit before c .tooLarge

/-- No character of a text spoils what stands before it. -/
def Unspoiled (base limit : Nat) (cs : List Char) : Prop :=
  ∀ before c after problem, cs = before ++ c :: after → ¬ Spoils base limit before c problem

/-- The first character of a text that spoils what stands before it, with what it is reported
as. -/
def SpoiledFirst (base limit : Nat) (cs : List Char) (problem : Problem) : Prop :=
  ∃ before c after, cs = before ++ c :: after ∧ Unspoiled base limit before ∧
    Spoils base limit before c problem

/-- What is wrong with a text that is no numeral below a limit. -/
inductive Refused (base limit : Nat) : List Char → Problem → Prop
  | empty : Refused base limit [] .empty
  | signAlone : Refused base limit ['+'] .invalidDigit
  | signed {row : List Char} {problem : Problem} (first : SpoiledFirst base limit row problem) :
      Refused base limit ('+' :: row) problem
  | unsigned {row : List Char} {problem : Problem} (plain : row.head? ≠ some '+')
      (first : SpoiledFirst base limit row problem) : Refused base limit row problem

/-! ### One character -/

/-- After a row of digits a character is refused exactly if it spoils the row. -/
theorem readDigits_singleton_eq_error_iff (row : IsRow base before n) :
    readDigits base limit n [c] = .error problem ↔ Spoils base limit before c problem := by
  rw [readDigits]
  cases known : digit? base c with
  | none =>
      constructor
      · rintro ⟨⟩
        exact .foreign known
      · intro spoils
        cases spoils with
        | foreign => rfl
        | large longer =>
            obtain ⟨_, _, -, digit, -⟩ := isRow_concat_iff.1 longer
            cases known.symm.trans digit
  | some d =>
      have longer : IsRow base (before ++ [c]) (base * n + d) :=
        isRow_concat_iff.2 ⟨n, d, row, known, rfl⟩
      by_cases small : base * n + d < limit
      · simp only [if_pos small, readDigits, reduceCtorEq, false_iff]
        intro spoils
        cases spoils with
        | foreign other => cases known.symm.trans other
        | large row reached =>
            rw [row.unique longer] at small
            exact absurd small (Nat.not_lt.2 reached)
      · simp only [if_neg small]
        constructor
        · rintro ⟨⟩
          exact .large longer (Nat.not_lt.1 small)
        · intro spoils
          cases spoils with
          | foreign other => cases known.symm.trans other
          | large => rfl

/-! ### Rows of digits -/

/-- Reading fails at one character, after what stands before it has been read. -/
theorem readDigits_eq_error_iff :
    readDigits base limit value cs = .error problem ↔
      ∃ before c after n, cs = before ++ c :: after ∧
        readDigits base limit value before = .ok n ∧
        readDigits base limit n [c] = .error problem := by
  constructor
  · intro failed
    induction cs generalizing value with
    | nil => cases failed
    | cons c cs ih =>
        rw [← List.singleton_append, readDigits_append] at failed
        cases first : readDigits base limit value [c] with
        | error other =>
            rw [first] at failed
            cases failed
            exact ⟨[], c, cs, value, rfl, rfl, first⟩
        | ok next =>
            rw [first] at failed
            obtain ⟨before, later, after, n, rfl, read, spoiled⟩ := ih failed
            refine ⟨c :: before, later, after, n, rfl, ?_, spoiled⟩
            rw [← List.singleton_append, readDigits_append, first]
            exact read
  · rintro ⟨before, c, after, n, rfl, read, failed⟩
    rw [List.append_cons, readDigits_append, readDigits_append, read]
    simp only [Except.bind, failed]

theorem readDigits_zero_eq_error_iff_isRow (pos : 0 < limit) :
    readDigits base limit 0 cs = .error problem ↔
      ∃ before c after n, cs = before ++ c :: after ∧ (IsRow base before n ∧ n < limit) ∧
        Spoils base limit before c problem := by
  rw [readDigits_eq_error_iff]
  simp only [readDigits_zero_eq_ok_iff pos]
  apply exists₄_congr
  intro before c after n
  apply and_congr_right
  intro split
  apply and_congr_right
  intro row
  exact readDigits_singleton_eq_error_iff row.1

/-- What no character spoils is a row of digits with a number below the limit, and so it is read. -/
theorem unspoiled_iff (pos : 0 < limit) :
    Unspoiled base limit cs ↔ ∃ n, IsRow base cs n ∧ n < limit := by
  simp only [← readDigits_zero_eq_ok_iff pos]
  constructor
  · intro unspoiled
    cases read : readDigits base limit 0 cs with
    | ok n => exact ⟨n, rfl⟩
    | error problem =>
        obtain ⟨before, c, after, n, split, -, spoils⟩ :=
          (readDigits_zero_eq_error_iff_isRow pos).1 read
        exact absurd spoils (unspoiled before c after problem split)
  · rintro ⟨n, read⟩ before c after problem rfl spoils
    -- A place that is spoiled need not be the first one, but what comes before it was read.
    have whole := read
    rw [readDigits_append] at read
    cases first : readDigits base limit 0 before with
    | error other =>
        rw [first] at read
        cases read
    | ok m =>
        have refused : readDigits base limit 0 (before ++ c :: after) = .error problem :=
          (readDigits_zero_eq_error_iff_isRow pos).2
            ⟨before, c, after, m, rfl, (readDigits_zero_eq_ok_iff pos).1 first, spoils⟩
        cases whole.symm.trans refused

/-- Digits are refused for the first character that spoils them. -/
theorem readDigits_zero_eq_error_iff (pos : 0 < limit) :
    readDigits base limit 0 cs = .error problem ↔ SpoiledFirst base limit cs problem := by
  rw [readDigits_zero_eq_error_iff_isRow pos]
  constructor
  · rintro ⟨before, c, after, n, split, row, spoils⟩
    exact ⟨before, c, after, split, (unspoiled_iff pos).2 ⟨n, row⟩, spoils⟩
  · rintro ⟨before, c, after, split, unspoiled, spoils⟩
    obtain ⟨n, row⟩ := (unspoiled_iff pos).1 unspoiled
    exact ⟨before, c, after, n, split, row, spoils⟩

/-! ### Numerals -/

theorem not_spoiledFirst_nil : ¬ SpoiledFirst base limit [] problem := by
  rintro ⟨before, c, after, split, -⟩
  simp at split

/-- A text is refused for what is wrong with it. -/
theorem read_eq_error_iff (pos : 0 < limit) :
    read base limit cs = .error problem ↔ Refused base limit cs problem := by
  cases cs with
  | nil =>
      constructor
      · rintro ⟨⟩
        exact .empty
      · rintro (_ | _ | _ | ⟨-, first⟩)
        · rfl
        · exact absurd first not_spoiledFirst_nil
  | cons c row =>
      by_cases plus : c = '+'
      · subst plus
        cases row with
        | nil =>
            constructor
            · rintro ⟨⟩
              exact .signAlone
            · rintro (_ | _ | first | ⟨plain, -⟩)
              · rfl
              · exact absurd first not_spoiledFirst_nil
              · exact absurd rfl plain
        | cons first row =>
            have unsigned : read base limit ('+' :: first :: row) =
                readDigits base limit 0 (first :: row) := rfl
            rw [unsigned, readDigits_zero_eq_error_iff pos]
            constructor
            · exact .signed
            · rintro (_ | _ | spoiled | ⟨plain, -⟩)
              · exact spoiled
              · exact absurd rfl plain
      · rw [read_cons_of_ne plus, readDigits_zero_eq_error_iff pos]
        constructor
        · exact .unsigned fun same => plus (Option.some.inj same)
        · rintro (_ | _ | _ | ⟨-, spoiled⟩)
          · exact absurd rfl plus
          · exact absurd rfl plus
          · exact spoiled

/-- A text is a numeral below a limit, or something is wrong with it. -/
theorem isNumeral_or_refused (pos : 0 < limit) (cs : List Char) :
    (∃ n < limit, IsNumeral base cs n) ∨ ∃ problem, Refused base limit cs problem := by
  cases answer : read base limit cs with
  | ok n =>
      obtain ⟨numeral, small⟩ := (read_eq_ok_iff pos).1 answer
      exact Or.inl ⟨n, small, numeral⟩
  | error problem => exact Or.inr ⟨problem, (read_eq_error_iff pos).1 answer⟩

theorem refused_empty_iff : Refused base limit cs .empty ↔ cs = [] := by
  constructor
  · rintro (_ | _ | ⟨before, c, after, -, -, ⟨⟩⟩ | ⟨-, before, c, after, -, -, ⟨⟩⟩)
    rfl
  · rintro rfl
    exact .empty

end FaultReplay.Numeral
