import FaultReplay.Json.Token

/-!
# JSON values

A value is a tree of tokens. It is built from a row of tokens by keeping the containers that are
still open on a stack, so any depth is read; it is written as the row of its tokens without
whitespace.
-/

namespace FaultReplay.Json

/-- A JSON value, as far as this library reads it. -/
inductive Value where
  | null
  | bool (value : Bool)
  /-- A number, with its value if it is a plain unsigned integer. -/
  | number (natural : Option Nat)
  /-- A string, with its text if that is well formed. -/
  | string (text : Option String)
  | array (items : List Value)
  /-- The members in the order of the text, with the keys as strings are. -/
  | object (members : List (Option String × Value))

/-- A container that is still open, with what it holds so far, the latest first. -/
inductive Frame where
  | array (items : List Value)
  /-- An object that waits for the value of a key. -/
  | object (members : List (Option String × Value)) (key : Option String)

/-- The value that a token is by itself. -/
def Token.scalar? : Token → Option Value
  | .null => some .null
  | .bool value => some (.bool value)
  | .number natural => some (.number natural)
  | .string text => some (.string text)
  | _ => none

mutual

/-- Reads tokens where a value has to begin. -/
def build : List Frame → List Token → Option (Value × List Token)
  | _, [] => none
  | stack, .openArray :: .closeArray :: rest => resume stack (.array []) rest
  | stack, .openArray :: rest => build (.array [] :: stack) rest
  | stack, .openObject :: .closeObject :: rest => resume stack (.object []) rest
  | stack, .openObject :: .string key :: .colon :: rest => build (.object [] key :: stack) rest
  | stack, token :: rest =>
    match token.scalar? with
    | some value => resume stack value rest
    | none => none

/-- Reads tokens after a value is complete. -/
def resume : List Frame → Value → List Token → Option (Value × List Token)
  | [], value, rest => some (value, rest)
  | .array items :: stack, value, .comma :: rest => build (.array (value :: items) :: stack) rest
  | .array items :: stack, value, .closeArray :: rest =>
    resume stack (.array (value :: items).reverse) rest
  | .object members key :: stack, value, .comma :: .string next :: .colon :: rest =>
    build (.object ((key, value) :: members) next :: stack) rest
  | .object members key :: stack, value, .closeObject :: rest =>
    resume stack (.object ((key, value) :: members).reverse) rest
  | _, _, _ => none

end

/-- The first value of a text, and the tokens after it. -/
def readFirst (text : String) : Option (Value × List Token) :=
  build [] (tokens text.toList)

/-- The value of a text that holds nothing else. -/
def read (text : String) : Option Value :=
  match readFirst text with
  | some (value, []) => some value
  | _ => none

mutual

/-- The tokens of a value. -/
def Value.tokens : Value → List Token
  | .null => [.null]
  | .bool value => [.bool value]
  | .number natural => [.number natural]
  | .string text => [.string text]
  | .array items => .openArray :: itemTokens items
  | .object members => .openObject :: memberTokens members

/-- The tokens of an array's items and its end. -/
def itemTokens : List Value → List Token
  | [] => [.closeArray]
  | [item] => item.tokens ++ [.closeArray]
  | item :: items => item.tokens ++ .comma :: itemTokens items

/-- The tokens of an object's members and its end. -/
def memberTokens : List (Option String × Value) → List Token
  | [] => [.closeObject]
  | [(key, value)] => .string key :: .colon :: value.tokens ++ [.closeObject]
  | (key, value) :: members =>
    .string key :: .colon :: value.tokens ++ .comma :: memberTokens members

end

/-- A value as text, without whitespace. -/
def Value.text (value : Value) : String :=
  String.ofList (value.tokens.flatMap Token.text)

end FaultReplay.Json
