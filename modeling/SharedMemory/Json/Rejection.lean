import SharedMemory.Layout
import SharedMemory.Text.Quoted
/-!
# Why a text is rejected

Either the text is not JSON at all, or its JSON does not denote a value of the type that was asked
for. The first cause met in reading order is the one reported.
-/
namespace SharedMemory.Json

/-- What stands where something else was expected. -/
inductive Found where
  | null
  | boolean (b : Bool)
  | integer (n : Int)
  | float (text : String)
  | string (s : String)
  | sequence
  | map
  deriving DecidableEq, Repr

inductive Rejection where
  | malformed
  | duplicateField (name : String)
  | missingField (name : String)
  | unknownField (name : String) (known : List String)
  | unknownVariant (name : String) (known : List String)
  | wrongType (found : Found) (expected : String)
  | outOfRange (n : Int) (expected : String)
  | wrongLength (length : Nat) (expected : String)
  | guidText
  | layout (e : LayoutError)
  deriving DecidableEq, Repr

/-- A name between accents. -/
def accented (s : String) : String := "\x60" ++ s ++ "\x60"

def Found.message : Found → String
  | null => "null"
  | boolean b => "boolean " ++ accented (if b then "true" else "false")
  | integer n => "integer " ++ accented (Decimal.text n)
  | float text => "floating point " ++ accented text
  | string s => "string " ++ Text.quoted s
  | sequence => "sequence"
  | map => "map"

/-- The alternatives that were expected. -/
def alternatives (names : List String) : String :=
  match names with
  | [] => "there are none"
  | [a] => "expected " ++ accented a
  | [a, b] => "expected " ++ accented a ++ " or " ++ accented b
  | _ => "expected one of " ++ ", ".intercalate (names.map accented)

def Rejection.message : Rejection → String
  | malformed => "malformed"
  | duplicateField name => "duplicate field " ++ accented name
  | missingField name => "missing field " ++ accented name
  | unknownField name known => "unknown field " ++ accented name ++ ", " ++ alternatives known
  | unknownVariant name known => "unknown variant " ++ accented name ++ ", " ++ alternatives known
  | wrongType found expected => "invalid type: " ++ found.message ++ ", expected " ++ expected
  | outOfRange n expected =>
    "invalid value: " ++ (Found.integer n).message ++ ", expected " ++ expected
  | wrongLength length expected =>
    "invalid length " ++ Decimal.text length ++ ", expected " ++ expected
  | guidText => "UUID parsing failed"
  | layout e => e.message

end SharedMemory.Json
