import SharedMemory.Kernel.Files
import SharedMemory.System
/-!
# Backings

What stands behind a region: a handle made of one or two descriptors of a memory object, and the
native operations on it. A backing only talks to the kernel. Which operation is allowed in which
mode, and which sizes are valid, is decided above it.
-/
namespace SharedMemory

class Backing (H : Type) where
  /-- Makes a new object of `size` bytes, to be used in `mode`. -/
  allocate (mode : Mode) (size : Nat) : Effect (Except Errno H)
  /-- Makes another handle of the same object. -/
  duplicate (h : H) : Effect (Except Errno H)
  /-- Gives up every access but reading. -/
  toReadOnly (h : H) : Effect (Except Errno H)
  /-- Gives up the possibility of becoming read-only. -/
  toShared (h : H) : Effect (Except Errno H)
  /-- Whether the access that the kernel grants is that of `mode` and the object has at least
  `size` bytes. -/
  corresponds (h : H) (mode : Mode) (size : Nat) : Effect Bool
  /-- Closes the descriptors. -/
  release (h : H) : Effect Unit
  /-- The descriptor that is mapped. -/
  descriptor (h : H) : Descriptor
  /-- The descriptor kept for becoming read-only, if the backing uses one and still has it. -/
  reserve (h : H) : Option Descriptor
  /-- Whether two descriptors count as equal. -/
  sameFile (a b : Descriptor) : Effect Bool

namespace Backing

variable {H : Type} [Backing H]

/-- The descriptors of a handle. -/
def descriptors (h : H) : List Descriptor := descriptor h :: (reserve h).toList

/-- The reserve of a handle, or the descriptor that is mapped. -/
def descriptor? (h : H) (spare : Bool) : Option Descriptor :=
  if spare then reserve h else some (descriptor h)

/-- Closes a descriptor, whatever the kernel says to it. -/
def closeDescriptor (d : Descriptor) : Effect Unit := do
  let _ ← Effect.attempt (Kernel.close d)

/-- The outcome of a query, spelled out for a record. -/
def spell {α : Type} (value : α → String) : Except Errno α → String
  | .ok a => "Ok(" ++ value a ++ ")"
  | .error e => "Err(Error(" ++ Decimal.text e.code.toInt ++ "))"

/-- A number in hexadecimal, spelled out for a record. -/
def spellHex (n : Nat) : String := "0x" ++ String.ofList (Hex.digits n)

end Backing

end SharedMemory
