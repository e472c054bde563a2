import SharedMemory.Text.Decimal
/-!
# Integer types

The integers of a given number of bits, with or without a sign, and the numerals that denote them.
A minus sign is refused where there are no negative numbers, even before a zero.
-/
namespace SharedMemory

structure IntegerType where
  bits : Nat
  signed : Bool
  deriving DecidableEq, Repr

namespace IntegerType

def least (t : IntegerType) : Int :=
  if t.signed then -((1 <<< (t.bits - 1) : Nat) : Int) else 0

def greatest (t : IntegerType) : Int :=
  ((1 <<< (if t.signed then t.bits - 1 else t.bits) : Nat) : Int) - 1

def contains (t : IntegerType) (n : Int) : Bool := t.least ≤ n && n ≤ t.greatest

def read? (t : IntegerType) (cs : List Char) : Option Int :=
  if cs.head? = some '-' ∧ ¬ t.signed then none else (Decimal.readInt? cs).filter t.contains

end IntegerType

end SharedMemory
