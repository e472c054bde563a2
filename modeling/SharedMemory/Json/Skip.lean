import SharedMemory.Json.Number
import SharedMemory.Json.Text
/-!
# Passing over values

Values under unknown names are passed over whatever they are, as long as they are JSON. The open
brackets are kept in a list, so values may be nested to any depth. Escaped surrogates need not
form pairs and numbers may be of any size here.
-/
namespace SharedMemory.Json

def isBlank (c : Char) : Bool := c == ' ' || c == '\n' || c == '\t' || c == '\r'

def skipBlanks (cs : List Char) : List Char := cs.dropWhile isBlank

/-- Takes a word off the front of a text. -/
def afterWord? (word cs : List Char) : Option (List Char) :=
  if word.isPrefixOf cs then some (cs.drop word.length) else none

inductive Bracket where
  | list
  | object
  deriving DecidableEq, Repr

/-- Whether a value or the end of one comes next. -/
inductive Phase where
  | value
  | afterValue
  deriving DecidableEq, Repr

/-- Passes over a value without parts. -/
def skipScalar? : List Char → Option (List Char)
  | 'n' :: cs => afterWord? ['u', 'l', 'l'] cs
  | 't' :: cs => afterWord? ['r', 'u', 'e'] cs
  | 'f' :: cs => afterWord? ['a', 'l', 's', 'e'] cs
  | '"' :: cs => (pieces? cs).map (·.2)
  | cs => (NumberText.read? cs).map (·.2)

/-- Passes over the colon after a name. -/
def afterColon? (cs : List Char) : Option (List Char) :=
  match skipBlanks cs with
  | ':' :: rest => some rest
  | _ => none

/-- Passes over a name and its colon. -/
def skipName? (cs : List Char) : Option (List Char) :=
  match skipBlanks cs with
  | '"' :: rest =>
    match pieces? rest with
    | some (_, rest) => afterColon? rest
    | none => none
  | _ => none

/-- Passes over what is left of a value in the given phase within the given brackets, innermost
first. Each step takes at least one character, so as many steps as there are characters will do. -/
def skipSteps : Nat → Phase → List Bracket → List Char → Option (List Char)
  | 0, _, _, _ => none
  | _ + 1, .afterValue, [], cs => some cs
  | fuel + 1, .afterValue, bracket :: outer, cs =>
    match bracket, skipBlanks cs with
    | .list, ',' :: rest => skipSteps fuel .value (.list :: outer) rest
    | .list, ']' :: rest => skipSteps fuel .afterValue outer rest
    | .object, ',' :: rest =>
      match skipName? rest with
      | some rest => skipSteps fuel .value (.object :: outer) rest
      | none => none
    | .object, '}' :: rest => skipSteps fuel .afterValue outer rest
    | _, _ => none
  | fuel + 1, .value, brackets, cs =>
    match skipBlanks cs with
    | '[' :: rest =>
      match skipBlanks rest with
      | ']' :: rest => skipSteps fuel .afterValue brackets rest
      | _ => skipSteps fuel .value (.list :: brackets) rest
    | '{' :: rest =>
      match skipBlanks rest with
      | '}' :: rest => skipSteps fuel .afterValue brackets rest
      | _ =>
        match skipName? rest with
        | some rest => skipSteps fuel .value (.object :: brackets) rest
        | none => none
    | cs =>
      match skipScalar? cs with
      | some rest => skipSteps fuel .afterValue brackets rest
      | none => none

/-- Passes over a value. -/
def skip? (cs : List Char) : Option (List Char) := skipSteps (cs.length + 2) .value [] cs

end SharedMemory.Json
