import SharedMemory.Kernel.Memory
import SharedMemory.Region.Basic
/-!
# Windows

A window is a view of part of a region that is mapped into memory. The native mapping starts at a
multiple of the granularity at or below the offset asked for, and only the bytes asked for are
exposed. Bytes are copied as far as the window reaches.
-/
namespace SharedMemory

inductive WindowError where
  | invalidAddress
  | invalidArgument
  | invalidOffset
  | invalidRange (offset count regionSize : Nat)
  | invalidRegion
  | notWritable
  | systemCallFailed (cause : Errno)
  deriving DecidableEq, Repr

def WindowError.message : WindowError → String
  | .invalidAddress => "requested memory out of range"
  | .invalidArgument => "invalid argument provided when creating mapping"
  | .invalidOffset => "requested offset is out of range of off_t"
  | .invalidRange offset count regionSize =>
    "requested memory range spans past the end of the region: offset=" ++ Decimal.text offset ++
      " count=" ++ Decimal.text count ++ " region_size=" ++ Decimal.text regionSize
  | .invalidRegion => "cannot map an invalid shared memory region"
  | .notWritable => "mapping is not writable"
  | .systemCallFailed cause => "mmap related system call failed: " ++ cause.message

structure Window where
  mapping : MappingId
  /-- Where the window starts within the native mapping. -/
  viewOffset : Nat
  size : Nat
  protection : Protection

/-- What to map. Only a request for a region can succeed. -/
structure WindowRequest (H : Type) where
  region : Option (Region H) := none
  offset : Nat := 0
  size : Nat
  /-- That of the host, unless another one is given. -/
  layout : Option Layout := none

/-- The layout by which a request is met. -/
def WindowRequest.chosenLayout {H : Type} (request : WindowRequest H) : Effect Layout := do
  return request.layout.getD (← get).kernel.layout

namespace Window

open Effect

/-- Maps bytes of an object. Offsets must be signed 64-bit words. -/
def mapNative (d : Descriptor) (offset length : Nat) (protection : Protection) :
    Effect (Except WindowError MappingId) := do
  if offset ≤ Kernel.maxPosition then
    match ← attempt (Kernel.map d offset length protection) with
    | .ok id => return .ok id
    | .error cause => return .error (.systemCallFailed cause)
  else return .error .invalidOffset

variable {H : Type} [Backing H]

def ofRequest (request : WindowRequest H) : Effect (Except WindowError Window) := do
  match request.region with
  | none => return .error .invalidArgument
  | some region =>
    match region.handle with
    | none => return .error .invalidRegion
    | some handle =>
      if request.size = 0 then return .error .invalidArgument
      else if ¬ rangeWithin request.offset request.size region.size then
        return .error (.invalidRange request.offset request.size region.size)
      else
        let layout ← request.chosenLayout
        let start := layout.alignDown request.offset
        let viewOffset := request.offset - start
        let protection := Protection.ofMode region.mode
        match ← mapNative (Backing.descriptor handle) start (request.size + viewOffset)
            protection with
        | .error e => return .error e
        | .ok mapping => return .ok ⟨mapping, viewOffset, request.size, protection⟩

/-- Unmaps a window that goes out of use. -/
def release (w : Window) : Effect Unit := do
  let _ ← attempt (Kernel.unmap w.mapping)

/-- The bytes of a window from a position on, as the kernel shows them. -/
def view (w : Window) (k : Kernel) (position count : Nat) : List UInt8 :=
  k.load w.mapping (w.viewOffset + position) count

/-- Stores bytes from a position on. -/
def put (w : Window) (position : Nat) (data : List UInt8) : Effect Unit :=
  modify fun s => { s with kernel := s.kernel.store w.mapping (w.viewOffset + position) data }

/-- Copies bytes into the window as far as it reaches, and says how many. -/
def writeSlice (w : Window) (data : List UInt8) (offset : Nat) :
    Effect (Except WindowError Nat) := do
  if ¬ w.protection.write then return .error .notWritable
  else if w.size < offset then return .error .invalidAddress
  else
    let copied := data.take (w.size - offset)
    w.put offset copied
    return .ok copied.length

/-- Copies bytes of the window over the first bytes of a buffer, as far as both reach. -/
def readSlice (w : Window) (buffer : List UInt8) (offset : Nat) :
    Effect (Except WindowError (Nat × List UInt8)) := do
  if w.size < offset then return .error .invalidAddress
  else
    let count := min (w.size - offset) buffer.length
    return .ok (count, w.view (← get).kernel offset count ++ buffer.drop count)

end Window

end SharedMemory
