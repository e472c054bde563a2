import SharedMemory.Backing.Basic
/-!
# Sealed files

A backing with one descriptor of a memory object without a name. The mode is kept in the seals of
the object, so it holds for every descriptor of the object. The size is sealed from the start. A
shared object has its seal set closed, a writable one has it open, and a read-only one refuses new
writable mappings.
-/
namespace SharedMemory

structure SealedFile where
  fd : Descriptor
  deriving DecidableEq, Repr

namespace SealedFile

open Effect Backing

/-- The part of the program that the records name. -/
def target : String := "shm_region::sys::linux::shm"

/-- A word taken as a signed 64-bit one. -/
def signed (n : Nat) : Int := Int.bmod n UInt64.size

def sizeSeals : Seals := { grow := true, shrink := true }

/-- The seals of a new object. -/
def initialSeals (mode : Mode) : Seals := { sizeSeals with closed := mode = .shared }

def readOnlySeals : Seals := { futureWrite := true, closed := true }

/-- What is left where the seal against future writable mappings is not known. -/
def strictSeals : Seals := { write := true, closed := true }

def closingSeals : Seals := { closed := true }

def addSeals (d : Descriptor) (seals : Seals) : Effect (Except Errno Unit) :=
  attempt (Kernel.addSeals d seals.mask)

/-- A step of an allocation after which the descriptor is closed if it failed. -/
def orClose (d : Descriptor) (step : Effect (Except Errno Unit)) : Effect (Except Errno Unit) := do
  match ← step with
  | .ok () => return .ok ()
  | .error e =>
    closeDescriptor d
    return .error e

def allocate (mode : Mode) (size : Nat) : Effect (Except Errno SealedFile) := do
  match ← attempt (Kernel.createMemory true) with
  | .error e => return .error e
  | .ok fd =>
    match ← orClose fd (attempt (Kernel.setLength fd (signed size))) with
    | .error e => return .error e
    | .ok () =>
      match ← orClose fd (addSeals fd (initialSeals mode)) with
      | .error e => return .error e
      | .ok () => return .ok ⟨fd⟩

def duplicate (h : SealedFile) : Effect (Except Errno SealedFile) := do
  match ← attempt (Kernel.duplicate h.fd) with
  | .error e => return .error e
  | .ok fd => return .ok ⟨fd⟩

def toReadOnly (h : SealedFile) : Effect (Except Errno SealedFile) := do
  let outcome ← addSeals h.fd readOnlySeals
  let outcome ←
    match outcome with
    | .error e =>
      if e = .invalidArgument then
        record .warn target "F_SEAL_FUTURE_WRITE unsupported, falling back to F_SEAL_WRITE"
        addSeals h.fd strictSeals
      else pure outcome
    | .ok () => pure outcome
  return outcome.map fun () => h

def toShared (h : SealedFile) : Effect (Except Errno SealedFile) := do
  let outcome ← addSeals h.fd closingSeals
  return outcome.map fun () => h

/-- The access and the seals that a mode stands for. -/
def admits (mode : Mode) (access : Access) (seals : Seals) : Bool :=
  match mode with
  | .readOnly => seals.blocksWrites
  | .writable => access == .readWrite && !seals.blocksWrites && !seals.closed
  | .shared => access == .readWrite && !seals.blocksWrites && seals.closed

def corresponds (h : SealedFile) (mode : Mode) (size : Nat) : Effect Bool := do
  let access ← attempt (Kernel.queryAccess h.fd)
  let seals ← attempt (Kernel.querySeals h.fd)
  let length ← attempt (Kernel.queryLength h.fd)
  match access, seals, length with
  | .ok access, .ok seals, .ok length =>
    if length < size then
      record .error target ("memfd spans " ++ Decimal.text length ++
        " bytes, less than the region size " ++ Decimal.text size)
      return false
    else if admits mode access seals then return true
    else
      record .error target ("memfd access mode " ++ spellHex access.bits ++ " and seals " ++
        spellHex seals.mask ++ " do not correspond to " ++ mode.word ++ " mode")
      return false
  | access, seals, length =>
    record .error target ("failed to query memfd: access=" ++
      spell (fun a => Decimal.text a.bits) access ++ " seals=" ++
      spell (fun s => "MemfdSeals(" ++ Decimal.text s.mask ++ ")") seals ++ " size=" ++
      spell (fun n => Decimal.text n) length)
    return false

/-- Descriptors are equal if they share an open file. -/
def sameFile (a b : Descriptor) : Effect Bool := do
  if a = b then return true
  else
    match ← attempt (Kernel.compareFiles a b) with
    | .ok same => return same
    | .error _ => return false

instance : Backing SealedFile where
  allocate := allocate
  duplicate := duplicate
  toReadOnly := toReadOnly
  toShared := toShared
  corresponds := corresponds
  release h := closeDescriptor h.fd
  descriptor h := h.fd
  reserve _ := none
  sameFile := sameFile

/-- The seals of the object. -/
def seals (h : SealedFile) : Effect (Except Errno Seals) := attempt (Kernel.querySeals h.fd)

end SealedFile

end SharedMemory
