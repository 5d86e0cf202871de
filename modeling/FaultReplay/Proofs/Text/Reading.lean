import FaultReplay.Text.Blank
import FaultReplay.Text.Lines
import FaultReplay.Text.Numeral

/-!
# Written words and lines

Words with a blank after each are read back as these words, lines with a line feed after each as
these lines, and the bytes of a text as that text. A number in base ten is such a word.
-/

namespace FaultReplay.Text

open Numeral (decimal)

/-- A text that is one word: it has characters and none of them is a blank. -/
def IsWord (text : String) : Prop :=
  text ≠ "" ∧ ∀ c ∈ text.toList, isBlank c = false

/-- A text that can stand as a line: it has no line feed, nor a carriage return at its end. -/
def IsLine (text : String) : Prop :=
  '\n' ∉ text.toList ∧ text.toList.getLast? ≠ some '\r'

instance (text : String) : Decidable (IsWord text) :=
  @instDecidableAnd _ _ inferInstance (List.decidableBAll (isBlank · = false) text.toList)

instance (text : String) : Decidable (IsLine text) :=
  inferInstanceAs (Decidable (_ ∧ _))

/-! ### Numbers as words -/

theorem isBlank_of_isDigit {c : Char} (h : c.isDigit = true) : isBlank c = false := by
  have range : 48 ≤ c.toNat ∧ c.toNat ≤ 57 := Char.isDigit_iff_toNat.1 h
  simp only [isBlank, Bool.or_eq_false_iff, Bool.and_eq_false_iff, decide_eq_false_iff_not,
    beq_eq_false_iff_ne]
  omega

theorem isDigit_of_mem_decimal {c : Char} {n : Nat} (h : c ∈ (decimal n).toList) :
    c.isDigit = true := by
  rw [decimal, String.toList_ofList] at h
  exact Nat.isDigit_of_mem_toDigits (by decide) (by decide) h

/-- What is no digit does not stand in a number. -/
theorem not_mem_decimal {c : Char} (h : c.isDigit = false) (n : Nat) :
    c ∉ (decimal n).toList := by
  intro mem
  simp [isDigit_of_mem_decimal mem] at h

theorem isWord_decimal (n : Nat) : IsWord (decimal n) := by
  constructor
  · intro empty
    have digits := congrArg String.toList empty
    simp [decimal, Nat.toDigits_ne_nil] at digits
  · intro c hc
    exact isBlank_of_isDigit (isDigit_of_mem_decimal hc)

/-! ### Words -/

theorem IsWord.toList_ne_nil {word : String} (h : IsWord word) : word.toList ≠ [] := by
  intro empty
  exact h.1 (String.toList_inj.1 (by simpa using empty))

theorem splitBlanks_append_of_blank {gap : List Char} (blank : ∀ c ∈ gap, isBlank c = true)
    (cs : List Char) : splitBlanks (gap ++ cs) = splitBlanks cs := by
  induction gap with
  | nil => rfl
  | cons c gap ih =>
      rw [List.cons_append, splitBlanks_cons_of_isBlank (blank c List.mem_cons_self),
        ih fun other mem => blank other (List.mem_cons_of_mem _ mem)]

/-- The last character of a word is no blank. -/
theorem IsWord.getLast {word : String} (h : IsWord word) :
    ∃ c, word.toList.getLast? = some c ∧ isBlank c = false := by
  refine ⟨word.toList.getLast h.toList_ne_nil, List.getLast?_eq_some_getLast _, ?_⟩
  exact h.2 _ (List.getLast_mem _)

/-- A word can stand as a line. -/
theorem IsWord.isLine {word : String} (h : IsWord word) : IsLine word := by
  obtain ⟨c, last, visible⟩ := h.getLast
  constructor
  · intro feed
    cases h.2 '\n' feed
  · rw [last]
    rintro ⟨rfl⟩
    cases visible

theorem splitBlanks_word {word : String} (h : IsWord word) {c : Char} (blank : isBlank c = true)
    (cs : List Char) : splitBlanks (word.toList ++ c :: cs) = word.toList :: splitBlanks cs :=
  splitBlanks_append_cons h.toList_ne_nil h.2 blank cs

/-- A word with blanks after it is the first word of a text. -/
theorem words_append_of_blank {word gap : String} (h : IsWord word) (apart : gap ≠ "")
    (blank : ∀ c ∈ gap.toList, isBlank c = true) (rest : String) :
    words (word ++ gap ++ rest) = word :: words rest := by
  obtain ⟨c, more, split⟩ : ∃ c more, gap.toList = c :: more := by
    apply List.exists_cons_of_ne_nil
    rwa [ne_eq, String.toList_eq_nil_iff]
  rw [split] at blank
  have others : ∀ other ∈ more, isBlank other = true := fun other mem =>
    blank other (List.mem_cons_of_mem _ mem)
  simp only [words, String.toList_append, split, List.append_assoc, List.cons_append,
    splitBlanks_word h (blank c List.mem_cons_self), splitBlanks_append_of_blank others,
    List.map_cons, String.ofList_toList]

/-- The pieces of a list are made of its elements, and what it is cut at stands in none of them. -/
theorem mem_of_mem_splitOnP {cut : Char → Bool} {cs piece : List Char}
    (h : piece ∈ cs.splitOnP cut) : ∀ c ∈ piece, c ∈ cs ∧ cut c = false := by
  induction cs generalizing piece with
  | nil =>
      rw [List.splitOnP_nil, List.mem_singleton] at h
      simp [h]
  | cons first cs ih =>
      have later {other : List Char} (mem : other ∈ cs.splitOnP cut) :
          ∀ c ∈ other, c ∈ first :: cs ∧ cut c = false := fun c hc =>
        ⟨List.mem_cons_of_mem _ (ih mem c hc).1, (ih mem c hc).2⟩
      rw [List.splitOnP_cons_eq_if_modifyHead] at h
      split at h
      · rcases List.mem_cons.1 h with rfl | mem
        · simp
        · exact later mem
      · rename_i kept
        obtain ⟨head, more, split⟩ := List.exists_cons_of_ne_nil (List.splitOnP_ne_nil cut cs)
        rw [split, List.modifyHead_cons] at h
        rw [split] at later
        rcases List.mem_cons.1 h with rfl | mem
        · intro c mem
          rcases List.mem_cons.1 mem with rfl | mem
          · exact ⟨List.mem_cons_self, by simpa using kept⟩
          · exact later List.mem_cons_self c mem
        · exact later (List.mem_cons_of_mem _ mem)

/-- The words of a text are words. -/
theorem isWord_of_mem_words {text word : String} (h : word ∈ words text) : IsWord word := by
  obtain ⟨piece, mem, rfl⟩ := List.mem_map.1 h
  obtain ⟨stretch, nonempty⟩ := List.mem_filter.1 mem
  constructor
  · intro empty
    have chars := congrArg String.toList empty
    simp only [String.toList_ofList] at chars
    simp [chars] at nonempty
  · rw [String.toList_ofList]
    exact fun c hc => (mem_of_mem_splitOnP stretch c hc).2

/-- The words of a line of words come before those of the text after it. -/
theorem words_intercalate_append {ws : List String} (h : ∀ word ∈ ws, IsWord word)
    (rest : String) : words (" ".intercalate ws ++ "\n" ++ rest) = ws ++ words rest := by
  have chars : splitBlanks ((" ".intercalate ws).toList ++ '\n' :: rest.toList) =
      ws.map String.toList ++ splitBlanks rest.toList := by
    induction ws with
    | nil => simpa using splitBlanks_cons_of_isBlank (by decide) rest.toList
    | cons word ws ih =>
        have solid : IsWord word := h word List.mem_cons_self
        have others := ih fun other mem => h other (List.mem_cons_of_mem _ mem)
        cases ws with
        | nil =>
            simpa using splitBlanks_word solid (by decide) rest.toList
        | cons next ws =>
            rw [String.intercalate_cons_of_ne_nil (by simp)]
            have blank : " ".toList = [' '] := rfl
            simp only [String.toList_append, blank, List.append_assoc, List.cons_append,
              List.nil_append, splitBlanks_word solid (show isBlank ' ' = true by decide), others,
              List.map_cons]
  simp only [words, String.toList_append, List.append_assoc]
  change (splitBlanks (_ ++ '\n' :: rest.toList)).map String.ofList = _
  rw [chars]
  simp [List.map_map, Function.comp_def]

/-! ### Lines -/

/-- A line as it is read once a line feed has ended it: one carriage return at its end belongs to
the line end. -/
def closeLine (line : String) : String :=
  String.ofList (dropReturn line.toList)

theorem closeLine_eq_self_iff {line : String} :
    closeLine line = line ↔ line.toList.getLast? ≠ some '\r' := by
  constructor
  · intro same final
    have kept : line.toList.dropLast = line.toList := by
      simpa [closeLine, dropReturn, final] using congrArg String.toList same
    have shorter := congrArg List.length kept
    have some_character : 0 < line.toList.length :=
      List.length_pos_iff.2 fun none => by simp [none] at final
    rw [List.length_dropLast] at shorter
    omega
  · intro open_
    rw [closeLine, dropReturn, if_neg open_, String.ofList_toList]

/-- All that can be missing from a line that was read is a blank at its end. -/
theorem exists_eq_closeLine_append (line : String) :
    ∃ gap, line = closeLine line ++ gap ∧ ∀ c ∈ gap.toList, isBlank c = true := by
  by_cases final : line.toList.getLast? = some '\r'
  · obtain ⟨before, split⟩ := List.getLast?_eq_some_iff.1 final
    refine ⟨"\r", String.toList_inj.1 ?_, ?_⟩
    · simp [closeLine, dropReturn, split]
    · simp [isBlank]
  · exact ⟨"", by rw [closeLine_eq_self_iff.2 final, String.append_empty], by simp⟩

theorem isBlankLine_closeLine (line : String) :
    isBlankLine (closeLine line) = isBlankLine line := by
  obtain ⟨gap, split, blank⟩ := exists_eq_closeLine_append line
  have all : gap.toList.all isBlank = true := List.all_eq_true.2 blank
  calc
    isBlankLine (closeLine line) = isBlankLine (closeLine line ++ gap) := by
      simp [isBlankLine, all]
    _ = isBlankLine line := by rw [← split]

/-- The first line of a text is what comes before the first line feed. -/
theorem lines_append_of_not_mem {line : String} (single : '\n' ∉ line.toList) (rest : String) :
    lines (line ++ "\n" ++ rest) = closeLine line :: lines rest := by
  simp only [lines, String.toList_append, List.append_assoc]
  change (splitLines (line.toList ++ '\n' :: rest.toList)).map String.ofList = _
  rw [splitLines_append_cons single, List.map_cons, closeLine]

/-- A text without a line feed is one line, unless it is empty. -/
theorem lines_of_not_mem {line : String} (single : '\n' ∉ line.toList) (nonempty : line ≠ "") :
    lines line = [line] := by
  have whole : line.toList.splitOn '\n' = [line.toList] := by
    rw [List.splitOn_eq_splitOnP]
    apply List.splitOnP_eq_singleton
    intro c mem
    rw [beq_eq_false_iff_ne]
    rintro rfl
    exact single mem
  have some_character : line.toList.isEmpty = false := by
    simpa [List.isEmpty_eq_false_iff] using nonempty
  rw [lines, splitLines, whole, closeLines, some_character]
  simp

theorem lines_join_of_not_mem {ls : List String} (single : ∀ line ∈ ls, '\n' ∉ line.toList) :
    lines (String.join (ls.map (· ++ "\n"))) = ls.map closeLine := by
  induction ls with
  | nil => rfl
  | cons line ls ih =>
      rw [List.map_cons, String.join_cons,
        lines_append_of_not_mem (single line List.mem_cons_self),
        ih fun other mem => single other (List.mem_cons_of_mem _ mem), List.map_cons]

/-- Lines are read as they were written. -/
theorem lines_join {ls : List String} (h : ∀ line ∈ ls, IsLine line) :
    lines (String.join (ls.map (· ++ "\n"))) = ls := by
  have kept : ls.map closeLine = ls.map id :=
    List.map_congr_left fun line mem => closeLine_eq_self_iff.2 (h line mem).2
  rw [lines_join_of_not_mem fun line mem => (h line mem).1, kept, List.map_id]

/-- A text whose last line is ended, if it has any. -/
def EndsLine (text : String) : Prop :=
  text = "" ∨ text.toList.getLast? = some '\n'

theorem endsLine_line (line : String) : EndsLine (line ++ "\n") := by
  right
  simp

theorem EndsLine.append {text rest : String} (h : EndsLine text) (more : EndsLine rest) :
    EndsLine (text ++ rest) := by
  rcases more with rfl | ended
  · rwa [String.append_empty]
  · right
    rw [String.toList_append, List.getLast?_append, ended, Option.some_or]

theorem closeLines_append {more : List (List Char)} (h : more ≠ [])
    (pieces : List (List Char)) :
    closeLines (pieces ++ more) = pieces.map dropReturn ++ closeLines more := by
  induction pieces with
  | nil => rfl
  | cons piece pieces ih =>
      have later : pieces ++ more ≠ [] := List.append_ne_nil_of_right_ne_nil _ h
      rw [List.cons_append, closeLines_cons later, ih, List.map_cons, List.cons_append]

theorem splitLines_append_feed (before after : List Char) :
    splitLines (before ++ '\n' :: after) =
      (before.splitOn '\n').map dropReturn ++ splitLines after := by
  rw [splitLines, List.splitOn_eq_splitOnP, List.splitOnP_append_cons _ _ (by simp),
    ← List.splitOn_eq_splitOnP, ← List.splitOn_eq_splitOnP,
    closeLines_append (List.splitOn_ne_nil _ _), splitLines]

/-- What is appended to a text that has ended its last line has lines of its own. -/
theorem lines_append {text : String} (h : EndsLine text) (rest : String) :
    lines (text ++ rest) = lines text ++ lines rest := by
  rcases h with rfl | ended
  · rfl
  · obtain ⟨before, split⟩ := List.getLast?_eq_some_iff.1 ended
    have alone := splitLines_append_feed before []
    rw [splitLines_nil, List.append_nil] at alone
    simp only [lines, String.toList_append, split, List.append_assoc, List.cons_append,
      List.nil_append, splitLines_append_feed, alone, List.map_append]

theorem subset_of_mem_closeLines {pieces : List (List Char)} {line : List Char}
    (h : line ∈ closeLines pieces) : ∃ piece ∈ pieces, line ⊆ piece := by
  fun_induction closeLines pieces with
  | case1 => simp at h
  | case2 => simp at h
  | case3 rest =>
      rw [List.mem_singleton.1 h]
      exact ⟨rest, List.mem_cons_self, List.Subset.refl _⟩
  | case4 first more _ ih =>
      rcases List.mem_cons.1 h with rfl | later
      · refine ⟨first, List.mem_cons_self, ?_⟩
        unfold dropReturn
        split
        · exact List.dropLast_subset _
        · exact List.Subset.refl _
      · obtain ⟨piece, mem, inside⟩ := ih later
        exact ⟨piece, List.mem_cons_of_mem _ mem, inside⟩

/-- A line that was read has no line feed. -/
theorem not_mem_of_mem_lines {text line : String} (h : line ∈ lines text) :
    '\n' ∉ line.toList := by
  obtain ⟨chars, listed, rfl⟩ := List.mem_map.1 h
  obtain ⟨piece, stretch, inside⟩ := subset_of_mem_closeLines listed
  rw [String.toList_ofList]
  intro feed
  simpa using (mem_of_mem_splitOnP stretch _ (inside feed)).2

/-! ### Ends of lines -/

theorem dropEndBlanks_of_getLast? {cs : List Char} {c : Char} (final : cs.getLast? = some c)
    (visible : isBlank c = false) : dropEndBlanks cs = cs := by
  obtain ⟨before, rfl⟩ := List.getLast?_eq_some_iff.1 final
  simp [dropEndBlanks, visible]

/-! ### Bytes -/

/-- The bytes of a text are read as that text. -/
theorem fromUTF8?_toUTF8 (text : String) : String.fromUTF8? text.toUTF8 = some text := by
  have valid : text.toUTF8.IsValidUTF8 := text.isValidUTF8
  rw [String.fromUTF8?, dif_pos valid]
  rfl

/-- Bytes are read as a text exactly if they are the bytes of that text. -/
theorem fromUTF8?_eq_some_iff {bytes : ByteArray} {text : String} :
    String.fromUTF8? bytes = some text ↔ bytes = text.toUTF8 := by
  constructor
  · intro h
    unfold String.fromUTF8? at h
    split at h
    · cases h
      rfl
    · cases h
  · rintro rfl
    exact fromUTF8?_toUTF8 text

theorem toUTF8_ne_empty {text : String} (nonempty : text ≠ "") :
    text.toUTF8 ≠ ByteArray.empty := by
  intro empty
  exact nonempty (String.toByteArray_inj.1 (by simpa using empty))

end FaultReplay.Text
