import SharedMemory.Json.Rejection
import SharedMemory.Text.Shortest
/-!
# Numbers in JSON

The grammar of numbers, and what a number denotes: an integer if it has neither fraction nor
exponent and fits a 64-bit word, else a floating-point number. Its significant digits are gathered
in a 64-bit word; once a further digit does not fit, it and those after it count for their place
only.
-/
namespace SharedMemory.Json

/-- The parts of the text of a number. -/
structure NumberText where
  negative : Bool
  whole : List Char
  fraction : Option (List Char)
  /-- The sign, true if negative, and the digits of the exponent. -/
  exponent : Option (Bool × List Char)
  deriving DecidableEq, Repr

namespace NumberText

/-- Reads one or more digits. -/
def digits? (cs : List Char) : Option (List Char × List Char) :=
  match cs.span Char.isDigit with
  | ([], _) => none
  | (ds, rest) => some (ds, rest)

/-- Reads a whole part, which has no leading zero. -/
def whole? (cs : List Char) : Option (List Char × List Char) :=
  match digits? cs with
  | some ('0' :: _ :: _, _) => none
  | outcome => outcome

def fraction? : List Char → Option (Option (List Char) × List Char)
  | '.' :: cs => (digits? cs).map fun (ds, rest) => (some ds, rest)
  | cs => some (none, cs)

def exponentDigits? (negative : Bool) (cs : List Char) :
    Option (Option (Bool × List Char) × List Char) :=
  (digits? cs).map fun (ds, rest) => (some (negative, ds), rest)

def exponent? : List Char → Option (Option (Bool × List Char) × List Char)
  | c :: cs =>
    if c = 'e' ∨ c = 'E' then
      match cs with
      | '+' :: cs => exponentDigits? false cs
      | '-' :: cs => exponentDigits? true cs
      | cs => exponentDigits? false cs
    else some (none, c :: cs)
  | [] => some (none, [])

/-- Reads a number. -/
def read? (cs : List Char) : Option (NumberText × List Char) := do
  let (negative, cs) := match cs with
    | '-' :: cs => (true, cs)
    | cs => (false, cs)
  let (whole, cs) ← whole? cs
  let (fraction, cs) ← fraction? cs
  let (exponent, cs) ← exponent? cs
  return (⟨negative, whole, fraction, exponent⟩, cs)

/-- Gathers digits in a word as long as they fit. The rest of the digits is left over. -/
def gather (word : Nat) : List Char → Nat × List Char
  | [] => (word, [])
  | d :: ds =>
    let next := 10 * word + (d.toNat - 48)
    if next < UInt64.size then gather next ds else (word, d :: ds)

/-- The largest exponent that is taken at its value. -/
def maxExponent : Nat := 0x7FFFFFFF

/-- Multiplies by a power of ten, in steps of at most 308 places. Nothing if the outcome is
infinite. -/
def scale : Nat → Float → Int → Option Float
  | 0, f, _ => some f
  | fuel + 1, f, e =>
    if e.natAbs ≤ 308 then
      let power := Float.ofScientific 1 false e.natAbs
      if 0 ≤ e then
        let product := f * power
        if product.isInf then none else some product
      else some (f / power)
    else if f == 0 then some f
    else if 0 ≤ e then none
    else scale fuel (f / Float.ofScientific 1 false 308) (e + 308)

/-- The magnitude as a double. -/
def magnitude? (t : NumberText) : Option Float :=
  let (word, skipped) := gather 0 t.whole
  let fraction := t.fraction.getD []
  let (word, unused) := gather word fraction
  let places : Int := skipped.length - (fraction.length - unused.length : Nat)
  let significand := word.toUInt64.toFloat
  match t.exponent with
  | none => scale 8 significand places
  | some (negative, ds) =>
    let e := Decimal.value ds
    if e ≤ maxExponent then
      scale 8 significand (if negative then places - e else places + e)
    else if word ≠ 0 ∧ ¬ negative then none
    else some 0

/-- Digits are written positionally below 10 ^ 16 and from 10 ^ -5 on. -/
def style : Shortest.Style := ⟨-5, 15⟩

/-- What the number denotes. Nothing if it is too large for a double. -/
def found? (t : NumberText) : Option Found :=
  let n := Decimal.value t.whole
  let float := t.magnitude?.map fun f =>
    Found.float (style.text (if t.negative then -f else f).toBits.toNat)
  if t.fraction.isSome ∨ t.exponent.isSome then float
  else if t.negative then
    if 0 < n ∧ n ≤ 1 <<< 63 then some (.integer (-n)) else float
  else if n < UInt64.size then some (.integer n)
  else float

end NumberText

end SharedMemory.Json
