import SharedMemory.Json.Skip
/-!
# Readers of simple values

A reader takes a value off the front of a text and leaves the rest. Where a value of another type
stands, the reader says which, provided that the value is sound as far as this can be told from
its front.
-/
namespace SharedMemory.Json

abbrev Read (α : Type) := List Char → Except Rejection (α × List Char)

/-- The outcome of a step of the grammar. -/
def orMalformed {α : Type} : Option α → Except Rejection α
  | some a => .ok a
  | none => .error .malformed

/-- What stands at the front of a text without leading blanks. -/
def front : List Char → Except Rejection Found
  | 'n' :: cs => orMalformed ((afterWord? ['u', 'l', 'l'] cs).map fun _ => .null)
  | 't' :: cs => orMalformed ((afterWord? ['r', 'u', 'e'] cs).map fun _ => .boolean true)
  | 'f' :: cs => orMalformed ((afterWord? ['a', 'l', 's', 'e'] cs).map fun _ => .boolean false)
  | '"' :: cs => orMalformed ((string? cs).map fun (s, _) => .string s)
  | '[' :: _ => .ok .sequence
  | '{' :: _ => .ok .map
  | cs => orMalformed ((NumberText.read? cs).bind fun (t, _) => t.found?)

/-- Rejects what stands at the front. -/
def mismatch {α : Type} (expected : String) (cs : List Char) : Except Rejection α :=
  match front cs with
  | .ok found => .error (.wrongType found expected)
  | .error e => .error e

/-- Whether a number may start with a character. -/
def startsNumber (c : Char) : Bool := c == '-' || c.isDigit

/-- Reads an integer between two bounds. -/
def readInteger (expected : String) (least greatest : Int) : Read Int := fun cs =>
  match skipBlanks cs with
  | [] => .error .malformed
  | c :: cs =>
    if startsNumber c then do
      let (t, rest) ← orMalformed (NumberText.read? (c :: cs))
      match ← orMalformed t.found? with
      | .integer n =>
        if least ≤ n ∧ n ≤ greatest then return (n, rest) else throw (.outOfRange n expected)
      | found => throw (.wrongType found expected)
    else mismatch expected (c :: cs)

/-- Reads an unsigned 64-bit word. -/
def readWord (expected : String) : Read Nat := fun cs => do
  let (n, rest) ← readInteger expected 0 (UInt64.size - 1) cs
  return (n.toNat, rest)

def readBoolean : Read Bool := fun cs =>
  match skipBlanks cs with
  | 't' :: cs => do
    let rest ← orMalformed (afterWord? ['r', 'u', 'e'] cs)
    return (true, rest)
  | 'f' :: cs => do
    let rest ← orMalformed (afterWord? ['a', 'l', 's', 'e'] cs)
    return (false, rest)
  | cs => mismatch "a boolean" cs

def readString (expected : String) : Read String := fun cs =>
  match skipBlanks cs with
  | '"' :: cs => orMalformed (string? cs)
  | cs => mismatch expected cs

def readNull (expected : String) : Read Unit := fun cs =>
  match skipBlanks cs with
  | 'n' :: cs => do
    let rest ← orMalformed (afterWord? ['u', 'l', 'l'] cs)
    return ((), rest)
  | cs => mismatch expected cs

/-- Reads a value that is all of a text, blanks aside. -/
def readAll {α : Type} (read : Read α) (text : String) : Except Rejection α := do
  let (a, rest) ← read text.toList
  if (skipBlanks rest).isEmpty then return a else throw .malformed

end SharedMemory.Json
