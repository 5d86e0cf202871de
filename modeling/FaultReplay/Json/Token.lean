import FaultReplay.Text.Numeral

/-!
# Tokens of JSON

A JSON text as a row of tokens with whitespace between them. A token keeps of a literal what this
library reads of it: of a number the value, if the literal is a plain unsigned integer, and of a
string the text, if its escapes do not leave half of a surrogate pair over. Every token has one
written form, in which the characters that JSON does not allow inside a string are escaped.
-/

namespace FaultReplay.Json

/-- A lexical unit of JSON. -/
inductive Token where
  | openArray
  | closeArray
  | openObject
  | closeObject
  | comma
  | colon
  | null
  | bool (value : Bool)
  /-- A number, with its value if it is a plain unsigned integer. -/
  | number (natural : Option Nat)
  /-- A string, with its text if that is well formed. -/
  | string (text : Option String)
  /-- Characters that begin no token. Nothing is read after them. -/
  | unreadable
  deriving DecidableEq, Repr

/-- Whitespace between tokens. -/
def isSpace (c : Char) : Bool :=
  c == ' ' || c == '\n' || c == '\t' || c == '\r'

/-! ### Strings -/

/-- The character that a one-letter escape stands for. -/
def escaped? (c : Char) : Option Nat :=
  if c = '"' ∨ c = '\\' ∨ c = '/' then some c.toNat
  else if c = 'b' then some 0x8
  else if c = 'f' then some 0xC
  else if c = 'n' then some 0xA
  else if c = 'r' then some 0xD
  else if c = 't' then some 0x9
  else none

/-- The number that four hexadecimal digits stand for. -/
def unit? (a b c d : Char) : Option Nat := do
  let a ← Numeral.digit? 16 a
  let b ← Numeral.digit? 16 b
  let c ← Numeral.digit? 16 c
  let d ← Numeral.digit? 16 d
  return ((a * 16 + b) * 16 + c) * 16 + d

/-- Puts a unit before those that are read after it. -/
def prepend (unit : Nat) : Option (List Nat × List Char) → Option (List Nat × List Char) :=
  Option.map fun read => (unit :: read.1, read.2)

/-- The units of a string up to its closing quote, and what follows the quote. A unit is the code
point of a character that stands for itself, or the number an escape gives. -/
def units? : List Char → Option (List Nat × List Char)
  | [] => none
  | c :: cs =>
    if c = '"' then some ([], cs)
    else if c = '\\' then
      match cs with
      | 'u' :: a :: b :: c :: d :: rest =>
        match unit? a b c d with
        | some unit => prepend unit (units? rest)
        | none => none
      | e :: rest =>
        match escaped? e with
        | some unit => prepend unit (units? rest)
        | none => none
      | [] => none
    else if c.toNat < 0x20 then none
    else prepend c.toNat (units? cs)

/-- The characters that units spell. Two units that form a surrogate pair are one character; half a
pair spells nothing. -/
def spell? : List Nat → Option (List Char)
  | [] => some []
  | unit :: units =>
    if 0xD800 ≤ unit ∧ unit < 0xDC00 then
      match units with
      | low :: units =>
        if 0xDC00 ≤ low ∧ low < 0xE000 then
          (spell? units).map
            (Char.ofNat (0x10000 + (unit - 0xD800) * 0x400 + (low - 0xDC00)) :: ·)
        else none
      | [] => none
    else if 0xDC00 ≤ unit ∧ unit < 0xE000 then none
    else (spell? units).map (Char.ofNat unit :: ·)

/-- How one character is written in a string. -/
def escape (c : Char) : List Char :=
  if c = '"' then ['\\', '"']
  else if c = '\\' then ['\\', '\\']
  else if c = '\x08' then ['\\', 'b']
  else if c = '\x0c' then ['\\', 'f']
  else if c = '\n' then ['\\', 'n']
  else if c = '\r' then ['\\', 'r']
  else if c = '\t' then ['\\', 't']
  else if c.toNat < 0x20 then
    ['\\', 'u', '0', '0', Nat.digitChar (c.toNat / 16), Nat.digitChar (c.toNat % 16)]
  else [c]

/-- A text as a string literal. -/
def quote (text : String) : List Char :=
  '"' :: text.toList.flatMap escape ++ ['"']

theorem length_lt_of_units? {cs rest : List Char} {units : List Nat}
    (h : units? cs = some (units, rest)) : rest.length < cs.length := by
  fun_induction units? cs generalizing units rest with
  | case1 => cases h
  | case2 =>
    cases h
    simp
  | case3 =>
    rename_i ih
    obtain ⟨⟨later, _⟩, found, same⟩ := Option.map_eq_some_iff.1 h
    cases same
    have shorter := ih found
    simp only [List.length_cons]
    omega
  | case4 => cases h
  | case5 =>
    rename_i ih
    obtain ⟨⟨later, _⟩, found, same⟩ := Option.map_eq_some_iff.1 h
    cases same
    have shorter := ih found
    simp only [List.length_cons]
    omega
  | case6 => cases h
  | case7 => cases h
  | case8 => cases h
  | case9 =>
    rename_i ih
    obtain ⟨⟨later, _⟩, found, same⟩ := Option.map_eq_some_iff.1 h
    cases same
    have shorter := ih found
    simp only [List.length_cons]
    omega

/-! ### Numbers -/

/-- What follows digits, of which there has to be one. -/
def afterDigits? (cs : List Char) : Option (List Char) :=
  if (cs.takeWhile Char.isDigit).isEmpty then none else some (cs.dropWhile Char.isDigit)

/-- What follows a fraction, if there is one. -/
def afterFraction? : List Char → Option (List Char)
  | '.' :: cs => afterDigits? cs
  | cs => some cs

/-- What follows a sign, if there is one. -/
def afterSign : List Char → List Char
  | '+' :: cs => cs
  | '-' :: cs => cs
  | cs => cs

/-- What follows an exponent, if there is one. -/
def afterExponent? : List Char → Option (List Char)
  | 'e' :: cs => afterDigits? (afterSign cs)
  | 'E' :: cs => afterDigits? (afterSign cs)
  | cs => some cs

/-- Whether a number has neither fraction nor exponent, by what follows its integer part. -/
def endsNumber : List Char → Bool
  | '.' :: _ => false
  | 'e' :: _ => false
  | 'E' :: _ => false
  | _ => true

/-- Reads a number without its sign. Its integer part has no needless zero in front. -/
def unsigned? (cs : List Char) : Option (Option Nat × List Char) :=
  let digits := cs.takeWhile Char.isDigit
  let rest := cs.dropWhile Char.isDigit
  if digits = [] ∨ (digits.head? = some '0' ∧ digits.length ≠ 1) then none
  else
    match (afterFraction? rest).bind afterExponent? with
    | none => none
    | some after =>
      some (if endsNumber rest then some (Nat.ofDigitChars 10 digits 0) else none, after)

theorem length_le_of_afterDigits? {cs rest : List Char} (h : afterDigits? cs = some rest) :
    rest.length ≤ cs.length := by
  unfold afterDigits? at h
  split at h
  · cases h
  · cases h
    exact (List.dropWhile_suffix _).length_le

theorem length_afterSign_le (cs : List Char) : (afterSign cs).length ≤ cs.length := by
  unfold afterSign
  split <;> simp

theorem length_le_of_afterFraction? {cs rest : List Char} (h : afterFraction? cs = some rest) :
    rest.length ≤ cs.length := by
  unfold afterFraction? at h
  split at h
  · have := length_le_of_afterDigits? h
    simp only [List.length_cons]
    omega
  · cases h
    exact Nat.le_refl _

theorem length_le_of_afterExponent? {cs rest : List Char} (h : afterExponent? cs = some rest) :
    rest.length ≤ cs.length := by
  unfold afterExponent? at h
  split at h
  · rename_i tail
    have := length_le_of_afterDigits? h
    have := length_afterSign_le tail
    simp only [List.length_cons]
    omega
  · rename_i tail
    have := length_le_of_afterDigits? h
    have := length_afterSign_le tail
    simp only [List.length_cons]
    omega
  · cases h
    exact Nat.le_refl _

theorem length_lt_of_unsigned? {cs rest : List Char} {value : Option Nat}
    (h : unsigned? cs = some (value, rest)) : rest.length < cs.length := by
  unfold unsigned? at h
  simp only at h
  split at h
  · cases h
  · rename_i digits
    split at h
    · cases h
    · rename_i after hAfter
      cases h
      obtain ⟨middle, hFraction, hExponent⟩ := Option.bind_eq_some_iff.1 hAfter
      have first := length_le_of_afterFraction? hFraction
      have second := length_le_of_afterExponent? hExponent
      have split := congrArg List.length
        (List.takeWhile_append_dropWhile (p := Char.isDigit) (l := cs))
      rw [List.length_append] at split
      have some_digit : 0 < (cs.takeWhile Char.isDigit).length :=
        List.length_pos_iff.2 fun none => digits (.inl none)
      omega

/-! ### Tokens -/

/-- The token that a single character is. -/
def mark? (c : Char) : Option Token :=
  if c = '[' then some .openArray
  else if c = ']' then some .closeArray
  else if c = '\x7b' then some .openObject
  else if c = '\x7d' then some .closeObject
  else if c = ',' then some .comma
  else if c = ':' then some .colon
  else none

/-- The token that begins with a letter, and what follows it. -/
def word? : Char → List Char → Option (Token × List Char)
  | 'n', 'u' :: 'l' :: 'l' :: rest => some (.null, rest)
  | 't', 'r' :: 'u' :: 'e' :: rest => some (.bool true, rest)
  | 'f', 'a' :: 'l' :: 's' :: 'e' :: rest => some (.bool false, rest)
  | _, _ => none

/-- The token that begins with a character, and what follows it. -/
def next? (c : Char) (cs : List Char) : Option (Token × List Char) :=
  match mark? c with
  | some token => some (token, cs)
  | none =>
    if c = '"' then
      (units? cs).map fun (units, rest) => (.string ((spell? units).map String.ofList), rest)
    else if c = '-' then (unsigned? cs).map fun (_, rest) => (.number none, rest)
    else if c.isDigit then (unsigned? (c :: cs)).map fun (value, rest) => (.number value, rest)
    else word? c cs

theorem length_le_of_word? {c : Char} {cs rest : List Char} {token : Token}
    (h : word? c cs = some (token, rest)) : rest.length ≤ cs.length := by
  unfold word? at h
  split at h <;> cases h <;> simp only [List.length_cons] <;> omega

theorem length_le_of_next? {c : Char} {cs rest : List Char} {token : Token}
    (h : next? c cs = some (token, rest)) : rest.length ≤ cs.length := by
  unfold next? at h
  split at h
  · cases h
    exact Nat.le_refl _
  · split at h
    · obtain ⟨⟨units, after⟩, found, same⟩ := Option.map_eq_some_iff.1 h
      cases same
      exact Nat.le_of_lt (length_lt_of_units? found)
    · split at h
      · obtain ⟨⟨value, after⟩, found, same⟩ := Option.map_eq_some_iff.1 h
        cases same
        exact Nat.le_of_lt (length_lt_of_unsigned? found)
      · split at h
        · obtain ⟨⟨value, after⟩, found, same⟩ := Option.map_eq_some_iff.1 h
          cases same
          exact Nat.lt_succ_iff.1 (length_lt_of_unsigned? found)
        · exact length_le_of_word? h

/-- The tokens of a text. -/
def tokens : List Char → List Token
  | [] => []
  | c :: cs =>
    if isSpace c then tokens cs
    else
      match _ : next? c cs with
      | none => [.unreadable]
      | some (token, rest) => token :: tokens rest
termination_by cs => cs.length
decreasing_by
  · simp
  · exact Nat.lt_succ_of_le (length_le_of_next? ‹next? c cs = some (token, rest)›)

/-- The written form of a token. A number that is no plain integer and a string that has no text are
written as one of their kind. -/
def Token.text : Token → List Char
  | .openArray => ['[']
  | .closeArray => [']']
  | .openObject => ['\x7b']
  | .closeObject => ['\x7d']
  | .comma => [',']
  | .colon => [':']
  | .null => ['n', 'u', 'l', 'l']
  | .bool true => ['t', 'r', 'u', 'e']
  | .bool false => ['f', 'a', 'l', 's', 'e']
  | .number (some n) => Nat.toDigits 10 n
  | .number none => ['-', '1']
  | .string (some text) => quote text
  | .string none => ['"', '\\', 'u', 'd', '8', '0', '0', '"']
  | .unreadable => ['?']

end FaultReplay.Json
