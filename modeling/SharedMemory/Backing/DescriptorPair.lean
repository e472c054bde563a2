import SharedMemory.Backing.Basic
/-!
# Descriptor pairs

A backing for systems that cannot take write access away from a descriptor. The mode is kept in
the access of the descriptor that is mapped. A writable region carries a second descriptor, opened
for reading; becoming read-only puts it in the place of the first.
-/
namespace SharedMemory

structure DescriptorPair where
  fd : Descriptor
  spare : Option Descriptor
  deriving DecidableEq, Repr

namespace DescriptorPair

open Effect Backing

/-- The part of the program that the records name. -/
def target : String := "shm_region::sys::macos::shm"

/-- Opens a descriptor and has it closed when another program is run. -/
def openMarked (call : Kernel → Option Descriptor × Kernel) : Effect (Except Errno Descriptor) := do
  match ← attempt call with
  | .error e => return .error e
  | .ok d =>
    match ← attempt (Kernel.markCloseOnExec d) with
    | .ok () => return .ok d
    | .error e =>
      closeDescriptor d
      return .error e

/-- Removes a name that is not needed any longer. A failure is only recorded. -/
def unlink (name : String) : Effect Unit := do
  match ← attempt (Kernel.unlinkShared name) with
  | .ok () => return ()
  | .error e => record .error target ("shm_unlink failed: " ++ e.message)

/-- Sets the length of a new object, which must be a signed 64-bit word. -/
def setLength (d : Descriptor) (size : Nat) : Effect (Except Errno Unit) :=
  if size ≤ Kernel.maxPosition then attempt (Kernel.setLength d size)
  else return .error .invalidArgument

def release (h : DescriptorPair) : Effect Unit := do
  closeDescriptor h.fd
  match h.spare with
  | some spare => closeDescriptor spare
  | none => return ()

/-- Sizes a new object, or closes its descriptors. -/
def sized (h : DescriptorPair) (size : Nat) : Effect (Except Errno DescriptorPair) := do
  match ← setLength h.fd size with
  | .ok () => return .ok h
  | .error e =>
    match h.spare with
    | some spare => closeDescriptor spare
    | none => pure ()
    closeDescriptor h.fd
    return .error e

def allocate (mode : Mode) (size : Nat) : Effect (Except Errno DescriptorPair) := do
  let name ← freshName
  match ← openMarked (Kernel.createShared name) with
  | .error e =>
    unlink name
    return .error e
  | .ok fd =>
    if mode = .writable then
      let spare ← openMarked (Kernel.openShared name)
      unlink name
      match spare with
      | .error e =>
        closeDescriptor fd
        return .error e
      | .ok spare => sized ⟨fd, some spare⟩ size
    else
      unlink name
      sized ⟨fd, none⟩ size

def duplicate (h : DescriptorPair) : Effect (Except Errno DescriptorPair) := do
  match h.spare with
  | none =>
    match ← attempt (Kernel.duplicate h.fd) with
    | .error e => return .error e
    | .ok fd => return .ok ⟨fd, none⟩
  | some spare =>
    match ← attempt (Kernel.duplicate spare) with
    | .error e => return .error e
    | .ok spare =>
      match ← attempt (Kernel.duplicate h.fd) with
      | .ok fd => return .ok ⟨fd, some spare⟩
      | .error e =>
        closeDescriptor spare
        return .error e

def toReadOnly (h : DescriptorPair) : Effect (Except Errno DescriptorPair) := do
  match h.spare with
  | some spare =>
    closeDescriptor h.fd
    return .ok ⟨spare, none⟩
  | none => return .error .badDescriptor

def toShared (h : DescriptorPair) : Effect (Except Errno DescriptorPair) := do
  match h.spare with
  | some spare => closeDescriptor spare
  | none => pure ()
  return .ok ⟨h.fd, none⟩

/-- The access of the mapped descriptor that a mode stands for. -/
def expectedAccess : Mode → Access
  | .readOnly => .read
  | .writable | .shared => .readWrite

/-- Whether the second descriptor is as a mode wants it: for reading where the region is writable,
and absent elsewhere. -/
def spareCorresponds (h : DescriptorPair) (mode : Mode) : Effect Bool := do
  match mode, h.spare with
  | .writable, some spare =>
    match ← attempt (Kernel.queryAccess spare) with
    | .ok .read => return true
    | outcome =>
      record .error target ("read-only descriptor is not read-only: " ++
        spell (fun a => Decimal.text a.bits) outcome)
      return false
  | .writable, none =>
    record .error target "writable region is missing its read-only descriptor"
    return false
  | mode, some _ =>
    record .error target (mode.word ++ " region must not carry a read-only descriptor")
    return false
  | _, none => return true

def corresponds (h : DescriptorPair) (mode : Mode) (size : Nat) : Effect Bool := do
  let access ← attempt (Kernel.queryAccess h.fd)
  let length ← attempt (Kernel.queryLength h.fd)
  match access, length with
  | .ok access, .ok length =>
    if length < size then
      record .error target ("shared memory object spans " ++ Decimal.text length ++
        " bytes, less than the region size " ++ Decimal.text size)
      return false
    else if access ≠ expectedAccess mode then
      record .error target ("descriptor access mode " ++ spellHex access.bits ++
        " does not correspond to " ++ mode.word ++ " mode")
      return false
    else h.spareCorresponds mode
  | access, length =>
    record .error target ("failed to query shared memory object: access=" ++
      spell (fun a => Decimal.text a.bits) access ++ " size=" ++
      spell (fun n => Decimal.text n) length)
    return false

instance : Backing DescriptorPair where
  allocate := allocate
  duplicate := duplicate
  toReadOnly := toReadOnly
  toShared := toShared
  corresponds := corresponds
  release := release
  descriptor h := h.fd
  reserve h := h.spare
  sameFile a b := return a == b

end DescriptorPair

end SharedMemory
