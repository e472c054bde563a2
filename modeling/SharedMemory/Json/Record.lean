import SharedMemory.Json.Reader
/-!
# Records in JSON

A record is read from an object, whose names may come in any order but only once each, or from a
list of its fields in their order. Reading fills a partial record field by field; at the end it
must be complete, unless the record fills its gaps. Unknown names are passed over or refused.
-/
namespace SharedMemory.Json

/-- A field: its name, whether a partial record has it, and how to read it. -/
structure Field (σ : Type) where
  name : String
  isSet : σ → Bool
  read : σ → Read σ

/-- A field that is kept in an option. -/
def Field.option {σ α : Type} (name : String) (get : σ → Option α) (set : σ → α → σ)
    (read : Read α) : Field σ where
  name := name
  isSet p := (get p).isSome
  read p cs := do
    let (a, rest) ← read cs
    return (set p a, rest)

structure RecordShape (σ α : Type) where
  name : String
  empty : σ
  fields : List (Field σ)
  /-- Unknown names are refused. -/
  strict : Bool := false
  /-- A list may end before all fields have come. -/
  fillsGaps : Bool := false
  /-- Completes a partial record. -/
  complete : σ → Except Rejection α

namespace RecordShape

variable {σ α : Type}

def names (shape : RecordShape σ α) : List String := shape.fields.map (·.name)

def expected (shape : RecordShape σ α) : String := "struct " ++ shape.name

/-- Reads the entry after a name. -/
def readEntry (shape : RecordShape σ α) (name : String) (p : σ) : Read σ := fun cs =>
  match shape.fields.find? (·.name == name) with
  | some field => do
    if field.isSet p then throw (.duplicateField name)
    let cs ← orMalformed (afterColon? cs)
    field.read p cs
  | none => do
    if shape.strict then throw (.unknownField name shape.names)
    let cs ← orMalformed (afterColon? cs)
    let rest ← orMalformed (skip? cs)
    return (p, rest)

/-- Passes over the comma before every element but the first. -/
def separated (first : Bool) (cs : List Char) : Except Rejection (List Char) :=
  if first then .ok cs
  else
    match cs with
    | ',' :: rest => .ok (skipBlanks rest)
    | _ => .error .malformed

/-- Reads entries up to the closing brace. Each takes at least one character. -/
def readEntries (shape : RecordShape σ α) : Nat → Bool → σ → Read σ
  | 0, _, _, _ => .error .malformed
  | fuel + 1, first, p, cs =>
    match skipBlanks cs with
    | '}' :: rest => .ok (p, rest)
    | cs => do
      match ← separated first cs with
      | '"' :: cs =>
        let (name, cs) ← orMalformed (string? cs)
        let (p, cs) ← shape.readEntry name p cs
        shape.readEntries fuel false p cs
      | _ => throw .malformed

/-- Reads elements up to the closing bracket, `count` of them having come before. -/
def readElements (shape : RecordShape σ α) : List (Field σ) → Nat → σ → Read σ
  | [], _, p, cs =>
    match skipBlanks cs with
    | ']' :: rest => .ok (p, rest)
    | _ => .error .malformed
  | field :: fields, count, p, cs =>
    match skipBlanks cs with
    | ']' :: rest =>
      if shape.fillsGaps then .ok (p, rest)
      else .error (.wrongLength count (shape.expected ++ " with " ++
        SharedMemory.Decimal.text shape.fields.length ++ " elements"))
    | cs => do
      let cs ← separated (count == 0) cs
      let (p, cs) ← field.read p cs
      shape.readElements fields (count + 1) p cs

def read (shape : RecordShape σ α) : Read α := fun cs => do
  let (p, rest) ←
    match skipBlanks cs with
    | '{' :: cs => shape.readEntries (cs.length + 1) true shape.empty cs
    | '[' :: cs => shape.readElements shape.fields 0 shape.empty cs
    | cs => mismatch shape.expected cs
  return (← shape.complete p, rest)

end RecordShape

/-- A part that a complete record must have. -/
def required {α : Type} (name : String) : Option α → Except Rejection α
  | some a => .ok a
  | none => .error (.missingField name)

/-- Writes an object of names and written values. -/
def writeObject (entries : List (String × List Char)) : List Char :=
  '{' :: List.intercalate [','] (entries.map fun (name, value) =>
    writeString name ++ ':' :: value) ++ ['}']

end SharedMemory.Json
