import SharedMemory.Region.Basic
/-!
# Views

What can be told about a handle, a descriptor and a region from the outside. A view is a value: it
asks the kernel without leaving a trace.
-/
namespace SharedMemory

/-- The answer of a call in a state that is kept as it is. -/
def Kernel.ask {α : Type} (k : Kernel) (call : Kernel → Option α × Kernel) : Except Errno α :=
  match call k with
  | (some a, _) => .ok a
  | (none, k') => .error k'.lastError

structure DescriptorView where
  length : Except Errno Nat
  access : Except Errno Access

def DescriptorView.of (d : Descriptor) (k : Kernel) : DescriptorView where
  length := k.ask (Kernel.queryLength d)
  access := k.ask (Kernel.queryAccess d)

structure HandleView where
  mapped : DescriptorView
  seals : Except Errno Seals
  /-- The access of the descriptor kept for becoming read-only, if the handle has one. -/
  reserve : Option (Except Errno Access)
  /-- How many descriptors the handle has. -/
  count : Nat

structure RegionView where
  handle : Option HandleView
  mode : Mode
  size : Nat
  guid : Guid

variable {H : Type} [Backing H]

def HandleView.of (h : H) (k : Kernel) : HandleView where
  mapped := .of (Backing.descriptor h) k
  seals := k.ask (Kernel.querySeals (Backing.descriptor h))
  reserve := (Backing.reserve h).map fun d => k.ask (Kernel.queryAccess d)
  count := (Backing.descriptors h).length

def RegionView.of (r : Region H) (k : Kernel) : RegionView where
  handle := r.handle.map fun h => .of h k
  mode := r.mode
  size := r.size
  guid := r.guid

end SharedMemory
