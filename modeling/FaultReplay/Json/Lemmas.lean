import FaultReplay.Json.Value

/-!
# Reading what was written

The written form of a value is read back as that value: the tokens of a value build it, in any stack
of open containers, and the characters of a row of tokens are read as those tokens, because a number
is always followed by a character that ends it.
-/

namespace FaultReplay.Json

/-! ### Strings -/

theorem unit?_of_low {n : Nat} (h : n < 0x20) :
    unit? '0' '0' (Nat.digitChar (n / 16)) (Nat.digitChar (n % 16)) = some n := by
  revert n
  decide

theorem units?_unescaped {c : Char} (quote : c ≠ '"') (backslash : c ≠ '\\')
    (visible : ¬ c.toNat < 0x20) (cs : List Char) :
    units? (c :: cs) = prepend c.toNat (units? cs) := by
  rw [units?.eq_def]
  simp only [if_neg quote, if_neg backslash, if_neg visible]

theorem units?_letter_escape {e : Char} {unit : Nat} (h : escaped? e = some unit)
    (cs : List Char) : units? ('\\' :: e :: cs) = prepend unit (units? cs) := by
  have plain : e ≠ 'u' := by
    rintro rfl
    simp [escaped?] at h
  rw [units?.eq_def]
  simp [plain, h]

theorem units?_numeric_escape {a b c d : Char} {unit : Nat} (h : unit? a b c d = some unit)
    (cs : List Char) :
    units? ('\\' :: 'u' :: a :: b :: c :: d :: cs) = prepend unit (units? cs) := by
  rw [units?.eq_def]
  simp [h]

/-- A written character is read as its code point. -/
theorem units?_escape_append (c : Char) (cs : List Char) :
    units? (escape c ++ cs) = prepend c.toNat (units? cs) := by
  unfold escape
  iterate 7
    split
    · subst_vars
      exact units?_letter_escape rfl cs
  split
  · rename_i low
    exact units?_numeric_escape (unit?_of_low low) cs
  · exact units?_unescaped ‹_› ‹_› ‹_› cs

/-- A written text is read up to its closing quote. -/
theorem units?_flatMap_escape (text rest : List Char) :
    units? (text.flatMap escape ++ '"' :: rest) = some (text.map Char.toNat, rest) := by
  induction text with
  | nil =>
    rw [List.flatMap_nil, List.nil_append, units?.eq_def]
    rfl
  | cons c text ih =>
    rw [List.flatMap_cons, List.append_assoc, units?_escape_append, ih]
    rfl

/-- Code points of characters spell these characters. -/
theorem spell?_map_toNat (text : List Char) : spell? (text.map Char.toNat) = some text := by
  induction text with
  | nil => rfl
  | cons c text ih =>
    have low : ¬ (0xD800 ≤ c.toNat ∧ c.toNat < 0xDC00) := by
      rcases c.valid with h | h
      · change c.toNat < 0xD800 at h
        omega
      · obtain ⟨h, -⟩ := h
        change 0xDFFF < c.toNat at h
        omega
    have high : ¬ (0xDC00 ≤ c.toNat ∧ c.toNat < 0xE000) := by
      rcases c.valid with h | h
      · change c.toNat < 0xD800 at h
        omega
      · obtain ⟨h, -⟩ := h
        change 0xDFFF < c.toNat at h
        omega
    rw [List.map_cons, spell?.eq_def]
    simp only [if_neg low, if_neg high, ih]
    simp [Char.ofNat_toNat]

/-! ### Numbers -/

/-- Characters that cannot go on a number. -/
def EndsNumber (cs : List Char) : Prop :=
  ∀ c, cs.head? = some c → c.isDigit = false ∧ c ≠ '.' ∧ c ≠ 'e' ∧ c ≠ 'E'

theorem takeWhile_isDigit_append {digits rest : List Char}
    (all : ∀ c ∈ digits, c.isDigit = true) (stop : EndsNumber rest) :
    (digits ++ rest).takeWhile Char.isDigit = digits := by
  rw [List.takeWhile_append_of_pos all]
  cases rest with
  | nil => simp
  | cons c rest => simp [(stop c rfl).1]

theorem dropWhile_isDigit_append {digits rest : List Char}
    (all : ∀ c ∈ digits, c.isDigit = true) (stop : EndsNumber rest) :
    (digits ++ rest).dropWhile Char.isDigit = rest := by
  rw [List.dropWhile_append_of_pos all]
  cases rest with
  | nil => rfl
  | cons c rest => simp [(stop c rfl).1]

theorem afterFraction?_of_endsNumber {rest : List Char} (stop : EndsNumber rest) :
    afterFraction? rest = some rest := by
  unfold afterFraction?
  split
  · exact absurd rfl (stop '.' rfl).2.1
  · rfl

theorem afterExponent?_of_endsNumber {rest : List Char} (stop : EndsNumber rest) :
    afterExponent? rest = some rest := by
  unfold afterExponent?
  split
  · exact absurd rfl (stop 'e' rfl).2.2.1
  · exact absurd rfl (stop 'E' rfl).2.2.2
  · rfl

theorem endsNumber_of_endsNumber {rest : List Char} (stop : EndsNumber rest) :
    endsNumber rest = true := by
  unfold endsNumber
  split
  · exact absurd rfl (stop '.' rfl).2.1
  · exact absurd rfl (stop 'e' rfl).2.2.1
  · exact absurd rfl (stop 'E' rfl).2.2.2
  · rfl

/-- Digits without a needless zero are read as their value. -/
theorem unsigned?_append {digits rest : List Char} (some_digit : digits ≠ [])
    (all : ∀ c ∈ digits, c.isDigit = true)
    (short : digits.head? = some '0' → digits.length = 1) (stop : EndsNumber rest) :
    unsigned? (digits ++ rest) = some (some (Nat.ofDigitChars 10 digits 0), rest) := by
  have fine : ¬ (digits = [] ∨ (digits.head? = some '0' ∧ digits.length ≠ 1)) := by
    rintro (none | ⟨zero, long⟩)
    · exact some_digit none
    · exact long (short zero)
  unfold unsigned?
  simp only [takeWhile_isDigit_append all stop, dropWhile_isDigit_append all stop, if_neg fine,
    afterFraction?_of_endsNumber stop, Option.bind_some, afterExponent?_of_endsNumber stop,
    endsNumber_of_endsNumber stop, if_true]

theorem eq_zero_of_head?_toDigits {n : Nat} (h : (Nat.toDigits 10 n).head? = some '0') :
    n = 0 := by
  induction n using Nat.base_induction 10 (by decide) with
  | single m hm =>
    rw [Nat.toDigits_of_lt_base hm] at h
    simpa using h
  | digit m k hk hm ih =>
    obtain ⟨c, digits, split⟩ := List.exists_cons_of_ne_nil (Nat.toDigits_ne_nil (n := m) (b := 10))
    rw [← Nat.toDigits_append_toDigits (by decide) hm hk, split] at h
    rw [split] at ih
    exact absurd (ih h) (by omega)

/-- The decimal digits of a number are read as that number. -/
theorem unsigned?_toDigits (n : Nat) {rest : List Char} (stop : EndsNumber rest) :
    unsigned? (Nat.toDigits 10 n ++ rest) = some (some n, rest) := by
  have digits : ∀ c ∈ Nat.toDigits 10 n, c.isDigit = true := fun c hc =>
    Nat.isDigit_of_mem_toDigits (by decide) (by decide) hc
  rw [unsigned?_append Nat.toDigits_ne_nil digits _ stop, Nat.ofDigitChars_ten_toDigits]
  intro zero
  rw [eq_zero_of_head?_toDigits zero]
  rfl

/-! ### Tokens -/

theorem isSpace_of_isDigit {c : Char} (h : c.isDigit = true) : isSpace c = false := by
  cases space : isSpace c with
  | false => rfl
  | true =>
    simp only [isSpace, Bool.or_eq_true, beq_iff_eq] at space
    rcases space with ((rfl | rfl) | rfl) | rfl <;> simp at h

theorem ne_of_isDigit {c d : Char} (h : c.isDigit = true) (other : d.isDigit = false) :
    c ≠ d := by
  rintro rfl
  simp [other] at h

theorem mark?_of_isDigit {c : Char} (h : c.isDigit = true) : mark? c = none := by
  simp [mark?, ne_of_isDigit h (d := '[') rfl, ne_of_isDigit h (d := ']') rfl,
    ne_of_isDigit h (d := '\x7b') rfl, ne_of_isDigit h (d := '\x7d') rfl,
    ne_of_isDigit h (d := ',') rfl, ne_of_isDigit h (d := ':') rfl]

theorem tokens_of_next? {c : Char} {cs rest : List Char} {token : Token}
    (solid : isSpace c = false) (h : next? c cs = some (token, rest)) :
    tokens (c :: cs) = token :: tokens rest := by
  rw [tokens, if_neg (by simp [solid])]
  split
  · simp_all
  · simp_all

/-- What may follow a token: after a number, something that ends it. -/
def Token.Before (token : Token) (cs : List Char) : Prop :=
  match token with
  | .number _ => EndsNumber cs
  | .unreadable => False
  | _ => True

/-- A written token is read as itself. -/
theorem tokens_text_append {token : Token} {rest : List Char} (before : token.Before rest) :
    tokens (token.text ++ rest) = token :: tokens rest := by
  cases token with
  | openArray => exact tokens_of_next? rfl rfl
  | closeArray => exact tokens_of_next? rfl rfl
  | openObject => exact tokens_of_next? rfl rfl
  | closeObject => exact tokens_of_next? rfl rfl
  | comma => exact tokens_of_next? rfl rfl
  | colon => exact tokens_of_next? rfl rfl
  | null => exact tokens_of_next? rfl rfl
  | bool value => cases value <;> exact tokens_of_next? rfl rfl
  | number natural =>
    cases natural with
    | none =>
      refine tokens_of_next? rfl ?_
      have read : unsigned? ('1' :: rest) = some (some 1, rest) := unsigned?_toDigits 1 before
      simp [next?, mark?, read]
    | some n =>
      obtain ⟨c, digits, split⟩ :=
        List.exists_cons_of_ne_nil (Nat.toDigits_ne_nil (n := n) (b := 10))
      have digit : c.isDigit = true :=
        Nat.isDigit_of_mem_toDigits (b := 10) (n := n) (by decide) (by decide) (by simp [split])
      have read := unsigned?_toDigits n before
      rw [split] at read
      rw [Token.text, split]
      refine tokens_of_next? (isSpace_of_isDigit digit) ?_
      have quote : c ≠ '"' := ne_of_isDigit digit rfl
      have minus : c ≠ '-' := ne_of_isDigit digit rfl
      rw [List.cons_append] at read
      simp [next?, mark?_of_isDigit digit, quote, minus, digit, read]
  | string text =>
    cases text with
    | none =>
      have read : units? ('\\' :: 'u' :: 'd' :: '8' :: '0' :: '0' :: '"' :: rest) =
          some ([0xD800], rest) :=
        (units?_numeric_escape rfl _).trans (by rw [units?.eq_def]; rfl)
      refine tokens_of_next? rfl ?_
      change next? '"' ('\\' :: 'u' :: 'd' :: '8' :: '0' :: '0' :: '"' :: rest) = _
      simp [next?, mark?, read, spell?]
    | some text =>
      have read := units?_flatMap_escape text.toList rest
      have written : (Token.string (some text)).text ++ rest =
          '"' :: (text.toList.flatMap escape ++ '"' :: rest) := by
        simp [Token.text, quote]
      rw [written]
      refine tokens_of_next? rfl ?_
      simp [next?, mark?, read, spell?_map_toNat]
  | unreadable => exact absurd before id

/-- A row of tokens that can be written without anything between them. -/
def Row : List Token → Prop
  | [] => True
  | token :: rest => token.Before (rest.flatMap Token.text) ∧ Row rest

/-- A written row of tokens is read as that row. -/
theorem tokens_flatMap_text {row : List Token} (h : Row row) :
    tokens (row.flatMap Token.text) = row := by
  induction row with
  | nil => simp [tokens]
  | cons token rest ih => rw [List.flatMap_cons, tokens_text_append h.1, ih h.2]

/-! ### Values -/

theorem endsNumber_nil : EndsNumber [] := by
  simp [EndsNumber]

theorem endsNumber_comma (cs : List Char) : EndsNumber (',' :: cs) := by
  simp [EndsNumber]

theorem endsNumber_closeArray (cs : List Char) : EndsNumber (']' :: cs) := by
  simp [EndsNumber]

theorem endsNumber_closeObject (cs : List Char) : EndsNumber ('\x7d' :: cs) := by
  simp [EndsNumber]

mutual

/-- The tokens of a value form a row with whatever ends a number after them. -/
theorem row_tokens : ∀ (value : Value) {rest : List Token}, Row rest →
    EndsNumber (rest.flatMap Token.text) → Row (value.tokens ++ rest)
  | .null, _, row, _ => ⟨trivial, row⟩
  | .bool _, _, row, _ => ⟨trivial, row⟩
  | .number _, _, row, stop => ⟨stop, row⟩
  | .string _, _, row, _ => ⟨trivial, row⟩
  | .array items, _, row, _ => ⟨trivial, row_itemTokens items row⟩
  | .object members, _, row, _ => ⟨trivial, row_memberTokens members row⟩

theorem row_itemTokens : ∀ (items : List Value) {rest : List Token}, Row rest →
    Row (itemTokens items ++ rest)
  | [], _, row => ⟨trivial, row⟩
  | [item], rest, row => by
    rw [itemTokens, List.append_assoc]
    exact row_tokens item ⟨trivial, row⟩ (endsNumber_closeArray _)
  | item :: next :: items, rest, row => by
    rw [itemTokens, List.append_assoc]
    · exact row_tokens item ⟨trivial, row_itemTokens (next :: items) row⟩ (endsNumber_comma _)
    · simp

theorem row_memberTokens : ∀ (members : List (Option String × Value)) {rest : List Token},
    Row rest → Row (memberTokens members ++ rest)
  | [], _, row => ⟨trivial, row⟩
  | [(_, value)], rest, row => by
    rw [memberTokens, List.append_assoc]
    exact ⟨trivial, trivial, row_tokens value ⟨trivial, row⟩ (endsNumber_closeObject _)⟩
  | (_, value) :: next :: members, rest, row => by
    rw [memberTokens, List.cons_append, List.cons_append, List.append_assoc]
    · exact ⟨trivial, trivial,
        row_tokens value ⟨trivial, row_memberTokens (next :: members) row⟩ (endsNumber_comma _)⟩
    · simp

end

/-- The tokens of a value begin with a token that ends no array. -/
theorem tokens_eq_cons (value : Value) :
    ∃ token rest, value.tokens = token :: rest ∧ token ≠ .closeArray := by
  cases value <;> simp [Value.tokens]

theorem itemTokens_eq_cons {items : List Value} (h : items ≠ []) :
    ∃ token rest, itemTokens items = token :: rest ∧ token ≠ .closeArray := by
  match items, h with
  | [item], _ =>
    obtain ⟨token, rest, split, solid⟩ := tokens_eq_cons item
    exact ⟨token, rest ++ [.closeArray], by simp [itemTokens, split], solid⟩
  | item :: next :: items, _ =>
    obtain ⟨token, rest, split, solid⟩ := tokens_eq_cons item
    exact ⟨token, rest ++ .comma :: itemTokens (next :: items), by simp [itemTokens, split], solid⟩

theorem build_openArray {stack : List Frame} {token : Token} {rest : List Token}
    (h : token ≠ .closeArray) :
    build stack (.openArray :: token :: rest) = build (.array [] :: stack) (token :: rest) := by
  cases token <;> simp_all [build]

mutual

/-- The tokens of a value build it, whatever is open around it. -/
theorem build_tokens : ∀ (value : Value) (stack : List Frame) (rest : List Token),
    build stack (value.tokens ++ rest) = resume stack value rest
  | .null, _, _ => by simp [Value.tokens, build, Token.scalar?]
  | .bool _, _, _ => by simp [Value.tokens, build, Token.scalar?]
  | .number _, _, _ => by simp [Value.tokens, build, Token.scalar?]
  | .string _, _, _ => by simp [Value.tokens, build, Token.scalar?]
  | .array [], _, _ => by simp [Value.tokens, itemTokens, build]
  | .array (item :: items), stack, rest => by
    have some_item : item :: items ≠ [] := List.cons_ne_nil _ _
    obtain ⟨token, more, split, solid⟩ := itemTokens_eq_cons some_item
    have inner := build_itemTokens (item :: items) some_item [] stack rest
    rw [split] at inner
    rw [Value.tokens, split, List.cons_append, List.cons_append, build_openArray solid]
    exact inner
  | .object [], _, _ => by simp [Value.tokens, memberTokens, build]
  | .object ((key, value) :: members), stack, rest => by
    have inner := build_memberTokens ((key, value) :: members) [] stack rest
    cases members <;> simpa [Value.tokens, memberTokens, build] using inner

theorem build_itemTokens : ∀ (items : List Value), items ≠ [] → ∀ (before : List Value)
    (stack : List Frame) (rest : List Token),
    build (.array before :: stack) (itemTokens items ++ rest) =
      resume stack (.array (before.reverse ++ items)) rest
  | [], h, _, _, _ => absurd rfl h
  | [item], _, before, stack, rest => by
    rw [itemTokens, List.append_assoc, build_tokens item]
    simp [resume]
  | item :: next :: items, _, before, stack, rest => by
    have inner :=
      build_itemTokens (next :: items) (List.cons_ne_nil _ _) (item :: before) stack rest
    rw [itemTokens, List.append_assoc, build_tokens item, List.cons_append, resume, inner]
    · simp
    · simp

/-- The members of an object build it once its first key is read. -/
theorem build_memberTokens : ∀ (members before : List (Option String × Value))
    (stack : List Frame) (rest : List Token),
    match members with
    | [] => True
    | (key, value) :: later =>
      build (.object before key :: stack)
          (value.tokens ++ (match later with
            | [] => [.closeObject]
            | next :: later => .comma :: memberTokens (next :: later)) ++ rest) =
        resume stack (.object (before.reverse ++ (key, value) :: later)) rest
  | [], _, _, _ => trivial
  | [(key, value)], before, stack, rest => by
    simp only [List.append_assoc]
    rw [build_tokens value]
    simp [resume]
  | (key, value) :: (next, nextValue) :: members, before, stack, rest => by
    have inner :=
      build_memberTokens ((next, nextValue) :: members) ((key, value) :: before) stack rest
    simp only [List.append_assoc]
    rw [build_tokens value]
    cases members <;> simpa [memberTokens, resume] using inner

end

/-- A value's text begins with that value and holds nothing else. -/
theorem readFirst_text (value : Value) : readFirst value.text = some (value, []) := by
  have row : Row (value.tokens ++ []) := row_tokens value trivial endsNumber_nil
  have built := build_tokens value [] []
  rw [List.append_nil] at row built
  rw [readFirst, Value.text, String.toList_ofList, tokens_flatMap_text row, built, resume]

/-- A value's text is read as that value. -/
theorem read_text (value : Value) : read value.text = some value := by
  rw [read, readFirst_text]

end FaultReplay.Json
