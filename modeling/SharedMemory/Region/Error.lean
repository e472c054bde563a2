import SharedMemory.Errno
import SharedMemory.Mode
/-!
# Failures of region operations

The system or the caller's data may keep an operation from succeeding; then it has an error as its
answer. An operation that a caller must not ask for at all in the given mode is misuse.
-/
namespace SharedMemory

inductive RegionError where
  | allocate (size : Nat) (cause : Errno)
  | convert (target : Mode) (cause : Errno)
  | duplicate (cause : Errno)
  | invalidRegion
  | invalidSize (size : Nat)
  | permissionMismatch (mode : Mode)
  deriving DecidableEq, Repr

def RegionError.message : RegionError → String
  | .allocate size cause =>
    "failed to allocate " ++ Decimal.text size ++ " bytes of shared memory: " ++ cause.message
  | .convert target cause =>
    "failed to convert shared memory region to " ++ target.word ++ ": " ++ cause.message
  | .duplicate cause => "failed to duplicate shared memory handle: " ++ cause.message
  | .invalidRegion => "shared memory region is invalid"
  | .invalidSize size => "invalid shared memory region size " ++ Decimal.text size
  | .permissionMismatch mode =>
    "platform handle permissions do not correspond to " ++ mode.word ++ " mode"

inductive Misuse where
  | createReadOnly
  | convertToReadOnly
  | convertToShared
  | duplicateWritable
  deriving DecidableEq, Repr

def Misuse.message : Misuse → String
  | .createReadOnly =>
    "Creating a region in read-only mode will lead to this region being non-modifiable"
  | .convertToReadOnly => "Only writable shared memory region can be converted to read-only"
  | .convertToShared => "Only writable shared memory region can be converted to unsafe"
  | .duplicateWritable => "Duplicating a writable shared memory region is prohibited"

inductive Failure where
  | error (e : RegionError)
  | misuse (m : Misuse)
  deriving DecidableEq, Repr

end SharedMemory
