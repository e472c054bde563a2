import SharedMemory.Backing.Basic
import SharedMemory.Header
import SharedMemory.Layout
import SharedMemory.Region.Error
/-!
# Regions

A region owns a handle of a memory object together with the size, the mode and the identifier of
the memory. It is born writable or shared. A writable region may be converted once, to read-only
or shared, and only regions in these two modes may be duplicated. A region without a handle is
invalid: its size is 0 and its identifier is nil.
-/
namespace SharedMemory

structure Region (H : Type) where
  handle : Option H := none
  mode : Mode := .readOnly
  size : Nat := 0
  guid : Guid := .nil

namespace Region

variable {H : Type}

/-- The region without a handle. -/
def invalid : Region H := {}

instance : Inhabited (Region H) := ⟨invalid⟩

def isValid (r : Region H) : Bool := r.handle.isSome

def header (r : Region H) : Header := ⟨r.mode, r.size, r.guid⟩

/-- The part of the program that the records name. -/
def target : String := "shm_region::region"

open Effect

variable [Backing H]

/-- Makes a region of `size` bytes in a mode other than read-only. The object behind it has a whole
number of pages. -/
def create (mode : Mode) (size : Nat) (layout : Layout) : Effect (Except Failure (Region H)) := do
  if mode = .readOnly then return .error (.misuse .createReadOnly)
  else if ¬ validSize size then return .error (.error (.invalidSize size))
  else
    match layout.roundUp? size with
    | none => return .error (.error (.invalidSize size))
    | some allocated =>
      match ← Backing.allocate (H := H) mode allocated with
      | .error cause =>
        record .error target ("failed to allocate " ++ Decimal.text allocated ++
          " bytes of shared memory: " ++ cause.message)
        return .error (.error (.allocate size cause))
      | .ok handle =>
        let guid ← freshGuid
        record .debug target ("created " ++ mode.word ++ " shared memory region " ++ guid.text ++
          " of " ++ Decimal.text size ++ " bytes (" ++ Decimal.text allocated ++ " allocated)")
        return .ok ⟨some handle, mode, size, guid⟩

/-- Takes over a handle that was received with a header. Neither is trusted: the size must be valid
and the kernel must confirm the mode and the size. A handle that is not accepted is closed. -/
def take (handle : H) (header : Header) : Effect (Except RegionError (Region H)) := do
  if ¬ validSize header.size then
    Backing.release handle
    return .error (.invalidSize header.size)
  else if ← Backing.corresponds handle header.mode header.size then
    return .ok ⟨some handle, header.mode, header.size, header.guid⟩
  else
    Backing.release handle
    return .error (.permissionMismatch header.mode)

/-- Splits a valid region into its handle and a header. -/
def parts? (r : Region H) : Option (H × Header) := r.handle.map (·, r.header)

/-- The native part of a conversion, the mode it leads to and the misuse of asking for it. -/
structure Conversion (H : Type) where
  goal : Mode
  misuse : Misuse
  native : H → Effect (Except Errno H)

def toReadOnly : Conversion H := ⟨.readOnly, .convertToReadOnly, Backing.toReadOnly⟩

def toShared : Conversion H := ⟨.shared, .convertToShared, Backing.toShared⟩

/-- Converts a writable region. -/
def convert (r : Region H) (c : Conversion H) : Effect (Except Failure (Region H)) := do
  match r.handle with
  | none => return .error (.error .invalidRegion)
  | some handle =>
    if r.mode ≠ .writable then return .error (.misuse c.misuse)
    else
      match ← c.native handle with
      | .error cause =>
        record .error target ("failed to convert region " ++ r.guid.text ++ " to " ++
          c.goal.word ++ ": " ++ cause.message)
        return .error (.error (.convert c.goal cause))
      | .ok handle =>
        record .debug target ("converted region " ++ r.guid.text ++ " to " ++ c.goal.word)
        return .ok { r with handle := some handle, mode := c.goal }

/-- Makes another region over the same object, with the same size, mode and identifier. -/
def duplicate (r : Region H) : Effect (Except Failure (Region H)) := do
  match r.handle with
  | none => return .error (.error .invalidRegion)
  | some handle =>
    if r.mode = .writable then return .error (.misuse .duplicateWritable)
    else
      match ← Backing.duplicate handle with
      | .error cause =>
        record .error target ("failed to duplicate region " ++ r.guid.text ++ ": " ++
          cause.message)
        return .error (.error (.duplicate cause))
      | .ok handle => return .ok { r with handle := some handle }

/-- Closes the handle of a region that goes out of use. -/
def release (r : Region H) : Effect Unit :=
  match r.handle with
  | none => return ()
  | some handle => Backing.release handle

end Region

end SharedMemory
