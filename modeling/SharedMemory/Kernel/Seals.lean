/-!
# Seals

The restrictions that a memory object has accepted for good. A seal is never taken back, and once
the set is closed no other seal joins it. On the system's side a set is a bit mask.
-/
namespace SharedMemory

structure Seals where
  closed : Bool := false
  shrink : Bool := false
  grow : Bool := false
  write : Bool := false
  futureWrite : Bool := false
  execute : Bool := false
  deriving DecidableEq, Repr

namespace Seals

def empty : Seals := {}

instance : Inhabited Seals := ⟨empty⟩

def mask (s : Seals) : Nat :=
  s.closed.toNat + 2 * s.shrink.toNat + 4 * s.grow.toNat + 8 * s.write.toNat +
    16 * s.futureWrite.toNat + 32 * s.execute.toNat

/-- The set of a mask, unless the mask has a bit that is no seal. -/
def ofMask? (bits : Nat) : Option Seals :=
  if bits < 64 then
    some {
      closed := bits.testBit 0
      shrink := bits.testBit 1
      grow := bits.testBit 2
      write := bits.testBit 3
      futureWrite := bits.testBit 4
      execute := bits.testBit 5 }
  else none

def union (a b : Seals) : Seals where
  closed := a.closed || b.closed
  shrink := a.shrink || b.shrink
  grow := a.grow || b.grow
  write := a.write || b.write
  futureWrite := a.futureWrite || b.futureWrite
  execute := a.execute || b.execute

/-- The set with what it brings along: no object that may be executed can be changed once its
execution is sealed. Memory objects may be executed from the start, and nothing here takes that
away. -/
def withImplied (s : Seals) : Seals :=
  if s.execute then { s with shrink := true, grow := true, write := true, futureWrite := true }
  else s

/-- Either of the seals that keep new writable mappings away. -/
def blocksWrites (s : Seals) : Bool := s.write || s.futureWrite

/-- A set is contained in another. -/
def Subset (a b : Seals) : Prop := a.union b = b

instance (a b : Seals) : Decidable (a.Subset b) := inferInstanceAs (Decidable (_ = _))

theorem ofMask?_mask (s : Seals) : ofMask? s.mask = some s := by
  obtain ⟨closed, shrink, grow, write, futureWrite, execute⟩ := s
  cases closed <;> cases shrink <;> cases grow <;> cases write <;> cases futureWrite <;>
    cases execute <;> rfl

end Seals

end SharedMemory
