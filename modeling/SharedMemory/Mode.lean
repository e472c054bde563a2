/-!
# Access modes

How a region may be used. A writable region is the only reference to its memory and may once be
downgraded to one of the other two modes, which may be duplicated but never changed again. The
protection of a mapping follows from the mode.
-/
namespace SharedMemory

inductive Mode where
  | readOnly
  | writable
  | shared
  deriving DecidableEq, Repr

namespace Mode

instance : Inhabited Mode := ⟨readOnly⟩

/-- The word used in messages. -/
def word : Mode → String
  | readOnly => "read-only"
  | writable => "writable"
  | shared => "unsafe"

/-- The name used on the wire. -/
def name : Mode → String
  | readOnly => "ReadOnly"
  | writable => "Writable"
  | shared => "Unsafe"

def all : List Mode := [readOnly, writable, shared]

def ofName? (s : String) : Option Mode := all.find? (·.name == s)

theorem ofName?_name (m : Mode) : ofName? m.name = some m := by cases m <;> rfl

end Mode

/-- The accesses that a mapping allows. -/
structure Protection where
  read : Bool := false
  write : Bool := false
  deriving DecidableEq, Repr

namespace Protection

def readable : Protection := ⟨true, false⟩

def readWrite : Protection := ⟨true, true⟩

def ofMode : Mode → Protection
  | .readOnly => readable
  | .writable | .shared => readWrite

/-- Bit 0 for reading and bit 1 for writing. -/
def bits (p : Protection) : Nat := p.read.toNat + 2 * p.write.toNat

end Protection

end SharedMemory
