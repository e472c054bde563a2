import SharedMemory.Text.Hex
import SharedMemory.Text.Integer
/-!
# Encodings of objects

An encoding lays the values of a type out in a fixed number of bytes from which they are read
back. Words are laid out with the least significant byte first. Every sequence of bytes denotes a
value, because other programs write to the same memory.
-/
namespace SharedMemory

structure Encoding (α : Type) where
  size : Nat
  encode : α → List UInt8
  decode : List UInt8 → α
  length_encode : ∀ a, (encode a).length = size
  decode_encode : ∀ a, decode (encode a) = a

namespace Encoding

/-- The lowest `count` bytes of a number, least significant first. -/
def wordBytes : Nat → Nat → List UInt8
  | 0, _ => []
  | count + 1, n => UInt8.ofNat n :: wordBytes count (n / 256)

/-- The number that bytes denote, least significant first. -/
def wordValue : List UInt8 → Nat
  | [] => 0
  | b :: bs => b.toNat + 256 * wordValue bs

private theorem length_wordBytes (count n : Nat) : (wordBytes count n).length = count := by
  induction count generalizing n with
  | zero => rfl
  | succ count ih => simp only [wordBytes, List.length_cons, ih]

private theorem wordValue_wordBytes (count n : Nat) :
    wordValue (wordBytes count n) = n % 1 <<< (8 * count) := by
  induction count generalizing n with
  | zero => simp [wordBytes, wordValue, Nat.mod_one]
  | succ count ih =>
    have hs : 1 <<< (8 * (count + 1)) = 256 * 1 <<< (8 * count) := by
      rw [Nat.one_shiftLeft, Nat.one_shiftLeft, Nat.mul_succ, Nat.pow_add, Nat.mul_comm]
    rw [wordBytes, wordValue, ih, UInt8.toNat_ofNat', hs, Nat.mod_mul]

/-- Words of a number of bytes. -/
def word (count : Nat) : Encoding (BitVec (8 * count)) where
  size := count
  encode v := wordBytes count v.toNat
  decode bs := BitVec.ofNat (8 * count) (wordValue bs)
  length_encode v := length_wordBytes count v.toNat
  decode_encode v := by
    have hv : v.toNat < 1 <<< (8 * count) := by
      rw [Nat.one_shiftLeft]
      exact v.isLt
    rw [wordValue_wordBytes, Nat.mod_eq_of_lt hv, BitVec.ofNat_toNat, BitVec.setWidth_eq]

/-- Bytes as they are. -/
def bytes (count : Nat) : Encoding (Vector UInt8 count) where
  size := count
  encode v := v.toList
  decode bs := Vector.ofFn fun i => bs.getD i.val 0
  length_encode v := v.length_toList
  decode_encode v := by
    apply Vector.ext
    intro i h
    simp

end Encoding

/-- The object types that have a written form: words as numerals, bytes as hexadecimal digits. -/
inductive Shape where
  | integer (count : Nat) (signed : Bool)
  | bytes (count : Nat)
  deriving DecidableEq, Repr

namespace Shape

abbrev Value : Shape → Type
  | integer count _ => BitVec (8 * count)
  | bytes count => Vector UInt8 count

def encoding : (s : Shape) → Encoding s.Value
  | integer count _ => .word count
  | bytes count => .bytes count

def integerType (count : Nat) (signed : Bool) : IntegerType := ⟨8 * count, signed⟩

/-- Reads a written form. -/
def read? : (s : Shape) → List Char → Option s.Value
  | integer count signed, cs =>
    ((integerType count signed).read? cs).map (BitVec.ofInt (8 * count))
  | bytes count, cs =>
    match Hex.toBytes? cs with
    | none => none
    | some bs => if h : bs.toArray.size = count then some ⟨bs.toArray, h⟩ else none

/-- The written form of a value. -/
def text : (s : Shape) → s.Value → String
  | integer _ signed, v =>
    Decimal.text (if signed then v.toInt else v.toNat)
  | bytes _, v => String.ofList (Hex.ofBytes v.toList)

end Shape

end SharedMemory
