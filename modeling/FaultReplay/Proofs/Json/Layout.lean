import FaultReplay.Json.Lemmas
import FaultReplay.Proofs.Json.Fields

/-!
# Laid out JSON

Whitespace between tokens is for readers only: a text is read as a value if its tokens are those of
the value, wherever spaces and line feeds stand between them.
-/

namespace FaultReplay.Json

/-- Whitespace before a token is skipped. -/
theorem tokens_cons_of_isSpace {c : Char} (space : isSpace c = true) (cs : List Char) :
    tokens (c :: cs) = tokens cs := by
  rw [tokens, if_pos space]

theorem tokens_feed_cons (cs : List Char) : tokens ('\n' :: cs) = tokens cs :=
  tokens_cons_of_isSpace rfl cs

theorem tokens_blank_cons (cs : List Char) : tokens (' ' :: cs) = tokens cs :=
  tokens_cons_of_isSpace rfl cs

/-- A bracket, a comma or a colon is read alone, whatever comes after it. -/
theorem tokens_cons_of_mark? {c : Char} {token : Token} (mark : mark? c = some token)
    (cs : List Char) : tokens (c :: cs) = token :: tokens cs := by
  have solid : isSpace c = false := by
    rw [Bool.eq_false_iff]
    intro space
    simp only [isSpace, Bool.or_eq_true, beq_iff_eq] at space
    rcases space with ((rfl | rfl) | rfl) | rfl <;> simp [mark?] at mark
  exact tokens_of_next? solid (by rw [next?, mark])

/-- A string is read up to its closing quote, whatever comes after it. -/
theorem tokens_quote_append (text : String) (cs : List Char) :
    tokens (quote text ++ cs) = .string (some text) :: tokens cs := by
  have before : (Token.string (some text)).Before cs := trivial
  exact tokens_text_append before

/-- A text with the tokens of a value is read as that value. -/
theorem read_of_tokens {text : String} {value : Value} (h : tokens text.toList = value.tokens) :
    read text = some value := by
  have built := build_tokens value [] []
  rw [List.append_nil, ← h, resume] at built
  rw [read, readFirst, built]

/-- A text that is an object with these texts as its members, in this order. -/
def IsObject (text : String) (members : List (String × String)) : Prop :=
  read text = some (.ofMembers (members.map fun member => (member.1, .ofText member.2)))

end FaultReplay.Json
