/-!
# Arguments

How a row of arguments divides into options with their values and operands. An option has a letter
and a name; its value is attached to the letter, attached to the name by an equals sign, or the next
argument. Two dashes end the options.
-/

namespace FaultReplay.Cli

/-- An option, which always takes a value. -/
structure Parameter where
  letter : Char
  name : String
  deriving DecidableEq, Repr

/-- What an argument is for a set of options. -/
inductive Argument where
  /-- An option with its value. -/
  | attached (parameter : Parameter) (value : String)
  /-- An option whose value is the next argument. -/
  | awaiting (parameter : Parameter)
  /-- An option that is not in the set. -/
  | unknown
  | operand (value : String)
  deriving DecidableEq, Repr

/-- A piece of a row of arguments. -/
inductive Piece where
  | given (parameter : Parameter) (value : String)
  | operand (value : String)
  deriving DecidableEq, Repr

/-- What an argument after two dashes is. -/
def ofName (parameters : List Parameter) (cs : List Char) : Argument :=
  let name := String.ofList (cs.takeWhile (· != '='))
  match parameters.find? (·.name == name), cs.dropWhile (· != '=') with
  | none, _ => .unknown
  | some parameter, [] => .awaiting parameter
  | some parameter, _ :: value => .attached parameter (String.ofList value)

/-- What an argument after one dash is. -/
def ofLetter (parameters : List Parameter) (letter : Char) (rest : List Char) : Argument :=
  match parameters.find? (·.letter == letter), rest with
  | none, _ => .unknown
  | some parameter, [] => .awaiting parameter
  | some parameter, '=' :: value => .attached parameter (String.ofList value)
  | some parameter, value => .attached parameter (String.ofList value)

/-- What an argument is. A dash alone is an operand. -/
def Argument.ofText (parameters : List Parameter) (text : String) : Argument :=
  match text.toList with
  | '-' :: '-' :: name => ofName parameters name
  | '-' :: letter :: rest => ofLetter parameters letter rest
  | _ => .operand text

/-- Whether an argument can be the value of the option before it. -/
def isValue (text : String) : Bool :=
  match text.toList with
  | '-' :: _ :: _ => false
  | _ => true

/-- The pieces of a row of arguments, unless an option is unknown or lacks its value. -/
def pieces? (parameters : List Parameter) : List String → Option (List Piece)
  | [] => some []
  | text :: rest =>
    if text = "--" then some (rest.map .operand)
    else
      match Argument.ofText parameters text, rest with
      | .unknown, _ => none
      | .operand value, rest => (pieces? parameters rest).map (.operand value :: ·)
      | .attached parameter value, rest =>
        (pieces? parameters rest).map (.given parameter value :: ·)
      | .awaiting _, [] => none
      | .awaiting parameter, value :: rest =>
        if isValue value then (pieces? parameters rest).map (.given parameter value :: ·) else none

/-- The values of an option, in order. -/
def valuesOf (parameter : Parameter) (pieces : List Piece) : List String :=
  pieces.filterMap fun
    | .given other value => if other = parameter then some value else none
    | .operand _ => none

/-- The operands, in order. -/
def operands (pieces : List Piece) : List String :=
  pieces.filterMap fun
    | .operand value => some value
    | .given .. => none

end FaultReplay.Cli
