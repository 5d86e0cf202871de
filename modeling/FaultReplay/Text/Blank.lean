/-!
# Blanks

The characters with the White_Space property, and what the library does with them: cut a text into
words, and take them off the ends of a text. The work is done on lists of characters; `words` and
`trim` are the same functions on strings.
-/

namespace FaultReplay.Text

/-- The characters with the White_Space property. -/
def isBlank (c : Char) : Bool :=
  let n := c.toNat
  (0x9 ≤ n && n ≤ 0xD) || n == 0x20 || n == 0x85 || n == 0xA0 || n == 0x1680 ||
    (0x2000 ≤ n && n ≤ 0x200A) || n == 0x2028 || n == 0x2029 || n == 0x202F || n == 0x205F ||
    n == 0x3000

/-- The longest stretches without a blank, in order. -/
def splitBlanks (cs : List Char) : List (List Char) :=
  (cs.splitOnP isBlank).filter fun w => !w.isEmpty

theorem splitBlanks_cons_of_isBlank {c : Char} (h : isBlank c = true) (cs : List Char) :
    splitBlanks (c :: cs) = splitBlanks cs := by
  simp [splitBlanks, List.splitOnP_cons_eq_if_modifyHead, h]

/-- A word ends at the blank after it. -/
theorem splitBlanks_append_cons {w : List Char} (nonempty : w ≠ [])
    (solid : ∀ c ∈ w, isBlank c = false) {c : Char} (blank : isBlank c = true)
    (cs : List Char) : splitBlanks (w ++ c :: cs) = w :: splitBlanks cs := by
  rw [splitBlanks, List.splitOnP_append_cons_of_forall_mem solid c blank]
  simp [splitBlanks, nonempty]

/-- The words of a text: the longest stretches without a blank, in order. -/
def words (text : String) : List String :=
  (splitBlanks text.toList).map String.ofList

/-- A line without any character but blanks. -/
def isBlankLine (line : String) : Bool :=
  line.toList.all isBlank

/-- Drops the blanks at the end. -/
def dropEndBlanks (cs : List Char) : List Char :=
  (cs.reverse.dropWhile isBlank).reverse

theorem dropEndBlanks_append {w : List Char} (blank : ∀ c ∈ w, isBlank c = true)
    (cs : List Char) : dropEndBlanks (cs ++ w) = dropEndBlanks cs := by
  have all : ∀ c ∈ w.reverse, isBlank c = true := fun c hc => blank c (List.mem_reverse.1 hc)
  rw [dropEndBlanks, List.reverse_append, List.dropWhile_append_of_pos all, dropEndBlanks]

/-- The text without the blanks at its two ends. -/
def trim (text : String) : String :=
  String.ofList (dropEndBlanks (text.toList.dropWhile isBlank))

end FaultReplay.Text
