/-!
# Numbers by their places

A number is written with a fixed number of places to a base, the most significant first. What
stands at a place is the digit of a number below the base: a byte, or a character.
-/
namespace SharedMemory

/-- The last `width` places of a number to a base. -/
def places {α : Type} (base : Nat) (digit : Nat → α) : Nat → Nat → List α
  | 0, _ => []
  | width + 1, n => places base digit width (n / base) ++ [digit (n % base)]

end SharedMemory
