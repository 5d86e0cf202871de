import FaultReplay.Outcome.Summary
import FaultReplay.Proofs.Json.Layout

/-!
# Outcomes that are shown

The object that a summary is shown as is read back as the summary: each of its fields is a member,
in the same order, whatever characters keys and values have.
-/

namespace FaultReplay.Outcome

open Json (IsObject mark? tokens)
open Json.Value (ofMembers ofText)

/-- A member on its line is read as a key, a colon and a value. -/
theorem tokens_memberText_append (field : String × String) (cs : List Char) :
    tokens ((memberText field).toList ++ cs) =
      .string (some field.1) :: .colon :: .string (some field.2) :: tokens cs := by
  have line : (memberText field).toList ++ cs =
      '\n' :: ' ' :: ' ' :: (Json.quote field.1 ++ ':' :: ' ' :: (Json.quote field.2 ++ cs)) := by
    simp [memberText]
  have colon : mark? ':' = some .colon := rfl
  rw [line, Json.tokens_feed_cons, Json.tokens_blank_cons, Json.tokens_blank_cons,
    Json.tokens_quote_append, Json.tokens_cons_of_mark? colon, Json.tokens_blank_cons,
    Json.tokens_quote_append]

/-- The members and the closing brace are read as those of an object. -/
theorem tokens_members_append (fields : List (String × String)) (cs : List Char) :
    tokens ((",".intercalate (fields.map memberText)).toList ++ '\n' :: '\x7d' :: cs) =
      Json.memberTokens (fields.map fun field => (some field.1, ofText field.2)) ++
        tokens cs := by
  have comma : mark? ',' = some .comma := rfl
  have close : mark? '\x7d' = some .closeObject := rfl
  have closed : tokens ('\n' :: '\x7d' :: cs) = .closeObject :: tokens cs := by
    rw [Json.tokens_feed_cons, Json.tokens_cons_of_mark? close]
  induction fields with
  | nil => exact closed
  | cons field fields ih =>
      cases fields with
      | nil =>
          rw [List.map_singleton, String.intercalate_singleton, tokens_memberText_append, closed]
          rfl
      | cons next fields =>
          have line : (",".intercalate ((field :: next :: fields).map memberText)).toList =
              (memberText field).toList ++
                ',' :: (",".intercalate ((next :: fields).map memberText)).toList := by
            rw [List.map_cons, String.intercalate_cons_of_ne_nil (by simp)]
            simp
          rw [line, List.append_assoc, tokens_memberText_append, List.cons_append,
            Json.tokens_cons_of_mark? comma, ih]
          rfl

/-- The text of a summary is an object with the fields of the summary as its members. -/
theorem isObject_summaryText (outcome : Outcome) :
    IsObject (outcome.summaryText ++ "\n") outcome.summary := by
  have opening : mark? '\x7b' = some .openObject := rfl
  have close : mark? '\x7d' = some .closeObject := rfl
  have feed : tokens ['\n'] = [] := by
    rw [Json.tokens_feed_cons, tokens]
  apply Json.read_of_tokens
  rw [ofMembers, List.map_map, Json.Value.tokens]
  unfold summaryText
  split
  · rename_i empty
    have line : ("\x7b\x7d" ++ "\n").toList = ['\x7b', '\x7d', '\n'] := rfl
    rw [empty, line, Json.tokens_cons_of_mark? opening, Json.tokens_cons_of_mark? close, feed]
    rfl
  · have line : ("\x7b" ++ ",".intercalate (outcome.summary.map memberText) ++ "\n\x7d" ++
        "\n").toList = '\x7b' :: ((",".intercalate (outcome.summary.map memberText)).toList ++
          '\n' :: '\x7d' :: ['\n']) := by simp
    rw [line, Json.tokens_cons_of_mark? opening, tokens_members_append, feed, List.append_nil]
    rfl

end FaultReplay.Outcome
