import SharedMemory.Kernel.Seals
/-!
# Kernel objects

What a descriptor finally refers to: a memory object with a length, bytes and seals, or one end of
a pipe, of which only the kind matters. The bytes are kept as a function of the position; those
past the length are zero.
-/
namespace SharedMemory

inductive ObjectKind where
  | memory
  | pipe
  deriving DecidableEq, Repr

structure Object where
  kind : ObjectKind
  length : Nat := 0
  content : Nat → UInt8 := fun _ => 0
  seals : Seals := {}

namespace Object

instance : Inhabited Object := ⟨{ kind := .pipe }⟩

/-- A new memory object. One that takes no seals has its seal set closed from the start. -/
def memory (sealing : Bool) : Object where
  kind := .memory
  seals := { closed := !sealing }

/-- The `count` bytes from a position on. -/
def bytes (o : Object) (position count : Nat) : List UInt8 :=
  (List.range' position count).map o.content

/-- Replaces the bytes from a position on. -/
def overwrite (o : Object) (position : Nat) (data : List UInt8) : Object :=
  let cells := data.toArray
  { o with
    content := fun p =>
      if h : position ≤ p ∧ p - position < cells.size then cells[p - position] else o.content p }

/-- Cuts the object or extends it with zeros. -/
def resize (o : Object) (length : Nat) : Object :=
  { o with length, content := fun p => if p < length then o.content p else 0 }

theorem overwrite_content (o : Object) (position : Nat) (data : List UInt8) (p : Nat) :
    (o.overwrite position data).content p =
      if position ≤ p ∧ p < position + data.length then data.getD (p - position) 0
      else o.content p := by
  by_cases h : position ≤ p ∧ p < position + data.length
  · have hin : position ≤ p ∧ p - position < data.toArray.size := by
      rw [List.size_toArray]
      omega
    have hlt : p - position < data.length := by omega
    simp only [overwrite, dif_pos hin, if_pos h, List.getElem_toArray,
      List.getD_eq_getElem?_getD, List.getElem?_eq_getElem hlt, Option.getD_some]
  · have hout : ¬ (position ≤ p ∧ p - position < data.toArray.size) := by
      rw [List.size_toArray]
      omega
    simp only [overwrite, dif_neg hout, if_neg h]

end Object

end SharedMemory
