/-!
# Hexadecimal digits

One digit at a time, numbers of a fixed width, and byte strings with two digits to the byte.
Written digits are lower case; both cases are read.
-/
namespace SharedMemory.Hex

/-- The digit of a number below sixteen. -/
def digit (n : Nat) : Char :=
  if n < 10 then Char.ofNat (48 + n) else Char.ofNat (87 + n)

/-- The number that a digit of either case denotes. -/
def digit? (c : Char) : Option Nat :=
  if '0' ≤ c ∧ c ≤ '9' then some (c.toNat - 48)
  else if 'a' ≤ c ∧ c ≤ 'f' then some (c.toNat - 87)
  else if 'A' ≤ c ∧ c ≤ 'F' then some (c.toNat - 55)
  else none

/-- The lowest `width` digits of a number, most significant first. -/
def fixed : Nat → Nat → List Char
  | 0, _ => []
  | width + 1, n => fixed width (n / 16) ++ [digit (n % 16)]

/-- The number that a run of digits denotes, if it holds digits only. -/
def value? (ds : List Char) : Option Nat :=
  ds.foldlM (fun n c => (digit? c).map (16 * n + ·)) 0

/-- The digits of a number without leading zeros. -/
def digits (n : Nat) : List Char := Nat.toDigits 16 n

/-- Two digits to the byte. -/
def ofBytes (bytes : List UInt8) : List Char :=
  bytes.flatMap fun b => fixed 2 b.toNat

/-- Reads two digits to the byte. -/
def toBytes? : List Char → Option (List UInt8)
  | [] => some []
  | [_] => none
  | h :: l :: rest => do
    let high ← digit? h
    let low ← digit? l
    let bytes ← toBytes? rest
    return UInt8.ofNat (16 * high + low) :: bytes

end SharedMemory.Hex
