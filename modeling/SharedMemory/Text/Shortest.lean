import SharedMemory.Text.Decimal
/-!
# Shortest decimal texts

A binary floating-point number stands for all reals that round to it. Its shortest text has the
fewest digits that denote one of these, and of those with that many digits the nearest. The search
is exact: numbers are fractions of natural numbers.
-/
namespace SharedMemory.Shortest

/-- A power of ten. -/
def tenTo (k : Nat) : Nat := Nat.pow 10 k

/-- A positive binary number `significand * 2 ^ exponent` and whether the next smaller number is
only half as far away as the next larger one. -/
structure Binary where
  significand : Nat
  exponent : Int
  atBoundary : Bool

namespace Binary

/-- The parts of a finite positive double, from its bits. -/
def ofBits (bits : Nat) : Binary :=
  let fraction : Nat := bits % (1 <<< 52)
  let biased : Nat := (bits >>> 52) % (1 <<< 11)
  if biased = 0 then ⟨fraction, -1074, false⟩
  else ⟨(1 <<< 52) + fraction, (biased : Int) - 1075, fraction = 0 && 1 < biased⟩

/-- Numerators of the number and of the ends of its interval, over four times a power of two. -/
structure Scaled where
  value : Nat
  low : Nat
  high : Nat
  denominator : Nat
  /-- The ends of the interval round to the number as well. -/
  closed : Bool

def scaled (b : Binary) : Scaled :=
  let up := 1 <<< b.exponent.toNat
  let below := if b.atBoundary then 1 else 2
  { value := 4 * b.significand * up
    low := (4 * b.significand - below) * up
    high := (4 * b.significand + 2) * up
    denominator := 4 <<< (-b.exponent).toNat
    closed := b.significand % 2 = 0 }

end Binary

namespace Binary.Scaled

/-- Whether `d * 10 ^ k` rounds to the number. -/
def admits (s : Scaled) (k : Int) (d : Nat) : Bool :=
  let left := d * tenTo k.toNat * s.denominator
  let scale := tenTo (-k).toNat
  if s.closed then s.low * scale ≤ left && left ≤ s.high * scale
  else s.low * scale < left && left < s.high * scale

/-- The multiple of `10 ^ k` at or below the number. -/
def floor (s : Scaled) (k : Int) : Nat :=
  s.value * tenTo (-k).toNat / (s.denominator * tenTo k.toNat)

/-- How far `d * 10 ^ k` is away, up to a common factor. -/
def distance (s : Scaled) (k : Int) (d : Nat) : Nat :=
  let left := d * tenTo k.toNat * s.denominator
  let right := s.value * tenTo (-k).toNat
  (left - right) + (right - left)

/-- The exponent of the first digit: the least one of those from `e` on whose next power of ten is
above the number. -/
def leading (s : Scaled) : Nat → Int → Int
  | 0, e => e
  | fuel + 1, e => if s.floor (e + 1) = 0 then e else leading s fuel (e + 1)

/-- The better of the two neighbours of the number on the grid of `10 ^ k`. -/
def onGrid? (s : Scaled) (k : Int) : Option Nat :=
  let d := s.floor k
  match s.admits k d, s.admits k (d + 1) with
  | false, false => none
  | true, false => some d
  | false, true => some (d + 1)
  | true, true =>
    let below := s.distance k d
    let above := s.distance k (d + 1)
    if below < above ∨ (below = above ∧ d % 2 = 0) then some d else some (d + 1)

/-- Tries more and more digits. -/
def search (s : Scaled) (top : Int) : Nat → Nat → Option (Nat × Int)
  | 0, _ => none
  | fuel + 1, more =>
    let k := top - more
    match s.onGrid? k with
    | some d => some (d, k)
    | none => search s top fuel (more + 1)

end Binary.Scaled

/-- Takes zeros off the end of a number and counts them. -/
def stripZeros : Nat → Nat → Int → Nat × Int
  | 0, d, k => (d, k)
  | fuel + 1, d, k => if d ≠ 0 ∧ d % 10 = 0 then stripZeros fuel (d / 10) (k + 1) else (d, k)

/-- The shortest digits of a positive double and the exponent of the last of them. -/
def ofBinary (b : Binary) : Nat × Int :=
  let s := b.scaled
  let top := s.leading 640 (-325)
  match s.search top 18 0 with
  | some (d, k) => stripZeros 20 d k
  | none => (0, 0)

/-- How digits are written: positionally for a range of exponents of the first digit, else with an
exponent. -/
structure Style where
  least : Int
  greatest : Int

def Style.positional (digits : List Char) (k : Int) : List Char :=
  match k with
  | .ofNat zeros => digits ++ List.replicate zeros '0' ++ ['.', '0']
  | .negSucc n =>
    let places := n + 1
    let padded := List.replicate (places + 1 - digits.length) '0' ++ digits
    let whole := padded.length - places
    padded.take whole ++ '.' :: padded.drop whole

def Style.scientific (digits : List Char) (e : Int) : List Char :=
  let mantissa :=
    match digits with
    | [] => []
    | [d] => [d]
    | d :: ds => d :: '.' :: ds
  mantissa ++ 'e' :: (if e < 0 then '-' else '+') :: Decimal.digits e.natAbs

/-- The text of a finite double. -/
def Style.text (style : Style) (bits : Nat) : String :=
  let sign := if bits.testBit 63 then ['-'] else []
  let magnitude := bits % (1 <<< 63)
  let body :=
    if magnitude = 0 then ['0', '.', '0']
    else
      let (d, k) := ofBinary (.ofBits magnitude)
      let digits := Decimal.digits d
      let e := k + digits.length - 1
      if style.least ≤ e ∧ e ≤ style.greatest then positional digits k
      else scientific digits e
  String.ofList (sign ++ body)

end SharedMemory.Shortest
