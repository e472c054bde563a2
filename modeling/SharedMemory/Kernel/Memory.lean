import SharedMemory.Kernel.Basic
import SharedMemory.Layout
/-!
# Calls on memory

Mapping objects into memory, taking mappings away again, and the loads and stores that go through
them. A mapping may reach past the end of its object. Stores through every mapping of an object
are seen through all others at once.
-/
namespace SharedMemory.Kernel

section Pages

variable (k : Kernel)

/-- The layout of the host. -/
def layout : Layout := .host (k.pageBits.castLE (by decide))

/-- Mappings are placed below this address, which leaves out the last page of the lower half. -/
def addressSpace : Nat := (1 <<< 47) - k.pageSize

/-- The longest stretch of free addresses. Programs are placed at two thirds of the space, so it is
the one below them. -/
def longestFree : Nat := k.addressSpace / 3 * 2

def wholePages (length : Nat) : Nat := (length + (k.pageSize - 1)) / k.pageSize * k.pageSize

end Pages

/-- Maps the bytes of an object from an offset on, shared with every other mapping of it. Old
kernels that do not map an object for reading either once it is sealed against writes do so by the
plan. -/
def map (d : Descriptor) (offset length : Nat) (protection : Protection) :
    Kernel → Option MappingId × Kernel :=
  invoke (.map d offset length protection) fun k =>
    if offset % k.pageSize ≠ 0 then .error .invalidArgument
    else
      onFile d (fun file k =>
        let object := k.object file.object
        if length = 0 then .error .invalidArgument
        else if k.longestFree < k.wholePages length then .error .outOfMemory
        else if object.kind = .memory ∧ maxPosition < offset + k.wholePages length then
          .error .overflow
        else if protection.write ∧ file.access ≠ .readWrite then .error .accessDenied
        else if ¬ file.access.canRead then .error .accessDenied
        else if object.kind = .pipe then .error .noDevice
        else if protection.write ∧ object.seals.blocksWrites then .error .notPermitted
        else
          let (id, mappings) := k.mappings.insert ⟨file.object, offset, length, protection.write⟩
          .ok (id, { k with mappings })) k

/-- Takes a mapping away. -/
def unmap (id : MappingId) : Kernel → Option Unit × Kernel :=
  invoke (.unmap id) fun k => .ok ((), { k with mappings := k.mappings.erase id })

/-- The bytes seen through a mapping from a position on. -/
def load (k : Kernel) (id : MappingId) (position count : Nat) : List UInt8 :=
  match k.mappings.get? id with
  | none => List.replicate count 0
  | some m => (k.object m.object).bytes (m.offset + position) count

/-- Stores bytes through a writable mapping from a position on. -/
def store (id : MappingId) (position : Nat) (data : List UInt8) (k : Kernel) : Kernel :=
  match k.mappings.get? id with
  | none => k
  | some m =>
    if m.writable then k.modifyObject m.object (·.overwrite (m.offset + position) data) else k

end SharedMemory.Kernel
