import SharedMemory.Guid
import SharedMemory.Mode
/-!
# Sizes and headers

The size of a region travels as a signed 32-bit word, so a region holds between one byte and the
largest such word. A header is what accompanies the handle of a region that is handed over; its
receiver trusts none of it.
-/
namespace SharedMemory

/-- The largest size of a region. -/
def maxRegionSize : Nat := 0x7FFFFFFF

/-- A size that a region may have. -/
def validSize (size : Nat) : Bool := 0 < size && size ≤ maxRegionSize

/-- Whether the bytes from `offset` to `offset + count` lie within the first `size`. -/
def rangeWithin (offset count size : Nat) : Bool := offset + count ≤ size

structure Header where
  mode : Mode
  size : Nat
  guid : Guid
  deriving DecidableEq

end SharedMemory
