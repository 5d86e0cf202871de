import FaultReplay.Proofs.Text.Reading
import FaultReplay.Text.Quoted

/-!
# Texts on one line

A text stays on one line if it has no line feed. Numbers, words and quoted texts never have one,
whatever is quoted.
-/

namespace FaultReplay.Text

open Numeral (decimal hexadecimal)

/-- A text without a line feed. -/
def OneLine (text : String) : Prop :=
  '\n' ∉ text.toList

instance (text : String) : Decidable (OneLine text) :=
  inferInstanceAs (Decidable (¬ _))

/-- A text that is given by its characters, as every literal is. -/
theorem oneLine_ofList {cs : List Char} (h : '\n' ∉ cs) : OneLine (String.ofList cs) := by
  rwa [OneLine, String.toList_ofList]

@[simp] theorem oneLine_append {one other : String} :
    OneLine (one ++ other) ↔ OneLine one ∧ OneLine other := by
  simp [OneLine, not_or]

/-- The digits of a number are figures and letters. -/
theorem feed_not_mem_toDigits {base : Nat} (pos : 1 < base) (small : base ≤ 16) (n : Nat) :
    '\n' ∉ Nat.toDigits base n := by
  induction n using Nat.base_induction base pos with
  | single m low =>
      rw [Nat.toDigits_of_lt_base low, List.mem_singleton]
      have digit : ∀ d < 16, '\n' ≠ Nat.digitChar d := by decide
      exact digit m (Nat.lt_of_lt_of_le low small)
  | digit m k low positive ih =>
      rw [← Nat.toDigits_append_toDigits pos positive low, List.mem_append,
        Nat.toDigits_of_lt_base low, List.mem_singleton]
      have digit : ∀ d < 16, '\n' ≠ Nat.digitChar d := by decide
      rintro (mem | feed)
      · exact ih mem
      · exact digit k (Nat.lt_of_lt_of_le low small) feed

@[simp] theorem oneLine_decimal (n : Nat) : OneLine (decimal n) :=
  oneLine_ofList (feed_not_mem_toDigits (by decide) (by decide) n)

@[simp] theorem oneLine_hexadecimal (n : Nat) : OneLine (hexadecimal n) :=
  oneLine_ofList (feed_not_mem_toDigits (by decide) (by decide) n)

/-- A line feed is written as an escape, and no escape holds one. -/
theorem feed_not_mem_escape (c : Char) : '\n' ∉ escape c := by
  unfold escape
  repeat (split; · decide)
  rename_i other
  split
  · rw [List.mem_singleton]
    exact Ne.symm other
  · have digits := feed_not_mem_toDigits (by decide : 1 < 16) (by decide) c.toNat
    simpa using digits

/-- Whatever text is quoted, it is quoted on one line. -/
@[simp] theorem oneLine_quote (text : String) : OneLine (quote text) := by
  apply oneLine_ofList
  simp [feed_not_mem_escape]

theorem IsWord.oneLine {word : String} (h : IsWord word) : OneLine word := by
  intro feed
  cases h.2 '\n' feed

end FaultReplay.Text
