import SharedMemory.Errno
import SharedMemory.Header
import SharedMemory.Json.Record
/-!
# Simple values on the wire

Modes travel as their names, identifiers as their hyphenated digits and error numbers as integers.
A mode may also be given as an object with its name and null.
-/
namespace SharedMemory.Wire

open Json

def writeMode (m : Mode) : List Char := writeString m.name

/-- The mode of a name. -/
def modeOfName (name : String) : Except Rejection Mode :=
  match Mode.ofName? name with
  | some m => .ok m
  | none => .error (.unknownVariant name (Mode.all.map (·.name)))

def readMode : Read Mode := fun cs =>
  match skipBlanks cs with
  | '"' :: cs => do
    let (name, rest) ← orMalformed (string? cs)
    return (← modeOfName name, rest)
  | '{' :: cs =>
    match skipBlanks cs with
    | '"' :: cs => do
      let (name, cs) ← orMalformed (string? cs)
      let mode ← modeOfName name
      let cs ← orMalformed (afterColon? cs)
      let ((), cs) ← readNull "unit" cs
      match skipBlanks cs with
      | '}' :: rest => return (mode, rest)
      | _ => throw .malformed
    | _ => .error .malformed
  | _ => .error .malformed

def writeGuid (g : Guid) : List Char := writeString g.text

def readGuid : Read Guid := fun cs => do
  let (s, rest) ← readString "a formatted UUID string" cs
  match Guid.read? s.toList with
  | some g => return (g, rest)
  | none => throw .guidText

def writeErrno (e : Errno) : List Char := Decimal.numeral e.code.toInt

def readErrno : Read Errno := fun cs => do
  let (n, rest) ← readInteger "i32" Int32.minValue.toInt Int32.maxValue.toInt cs
  return (.ofInt n, rest)

def writeBoolean (b : Bool) : List Char := if b then "true".toList else "false".toList

end SharedMemory.Wire
