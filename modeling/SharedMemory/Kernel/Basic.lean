import SharedMemory.Errno
import SharedMemory.Mode
import SharedMemory.Kernel.Object
import SharedMemory.Kernel.Registry
/-!
# The kernel's state

Descriptors are numbers for open files, an open file refers to an object with the access it was
opened for, and mappings refer to objects on their own, so they outlive descriptors. A system call
that fails leaves its error number in the thread's error cell. Besides the refusals that follow
from the state, the kernel may turn down any call for reasons of its own, by a plan that looks at
the calls made so far.
-/
namespace SharedMemory

/-- A descriptor number. Negative numbers never refer to anything. -/
structure Descriptor where
  number : Int
  deriving DecidableEq, Repr

inductive Access where
  | read
  | write
  | readWrite
  deriving DecidableEq, Repr

namespace Access

/-- The access bits that the system reports. -/
def bits : Access → Nat
  | read => 0
  | write => 1
  | readWrite => 2

def canRead : Access → Bool
  | write => false
  | _ => true

def canWrite : Access → Bool
  | read => false
  | _ => true

end Access

abbrev ObjectId := Nat

abbrev FileId := Nat

abbrev MappingId := Nat

structure OpenFile where
  object : ObjectId
  access : Access
  deriving DecidableEq, Repr

/-- A live mapping of the bytes of an object from an offset on, shared with all others. -/
structure Mapping where
  object : ObjectId
  offset : Nat
  length : Nat
  writable : Bool
  deriving DecidableEq, Repr

/-- The system calls. -/
inductive Call where
  | createMemory (sealing : Bool)
  | createShared (name : String)
  | openShared (name : String)
  | unlinkShared (name : String)
  | makePipe
  | reopen (d : Descriptor) (access : Access)
  | duplicate (d : Descriptor)
  | markCloseOnExec (d : Descriptor)
  | close (d : Descriptor)
  | setLength (d : Descriptor) (length : Int)
  | writeAt (d : Descriptor) (position count : Nat)
  | queryAccess (d : Descriptor)
  | queryLength (d : Descriptor)
  | querySeals (d : Descriptor)
  | addSeals (d : Descriptor) (mask : Nat)
  | compareFiles (a b : Descriptor)
  | map (d : Descriptor) (offset length : Nat) (protection : Protection)
  | unmap (m : MappingId)
  deriving DecidableEq, Repr

/-- A call that was made, with the error it failed with, if it failed. -/
structure Event where
  call : Call
  error : Option Errno
  deriving DecidableEq

/-- Most hosts have hardware pages of four KiB. -/
def Kernel.fourKiB : Fin 32 := ⟨12, by decide⟩

structure Kernel where
  objects : List Object := []
  files : List OpenFile := []
  descriptors : Registry FileId := {}
  mappings : Registry Mapping := {}
  /-- The names of shared memory objects. -/
  names : List (String × ObjectId) := []
  /-- How many descriptors may be open at a time, if there is a limit. -/
  limit : Option Nat := none
  /-- Whether the seal against future writable mappings is known. -/
  knowsFutureWrite : Bool := true
  /-- The exponent of the size of a hardware page. -/
  pageBits : Fin 32 := Kernel.fourKiB
  lastError : Errno := ⟨0⟩
  /-- The plan of refusals, given the calls made so far, latest first. It stands for whatever makes
  a kernel refuse a call that this one would grant. -/
  refusal : List Event → Call → Option Errno := fun _ _ => none
  history : List Event := []

namespace Kernel

instance : Inhabited Kernel := ⟨{}⟩

/-- The largest signed 64-bit word. No byte of an object lies at or past this position. -/
def maxPosition : Nat := 0x7FFFFFFFFFFFFFFF

/-- The size of a hardware page. -/
def pageSize (k : Kernel := {}) : Nat := 1 <<< k.pageBits.val

/-- The open file of a descriptor. -/
def fileId? (k : Kernel) (d : Descriptor) : Option FileId :=
  match d.number with
  | .ofNat n => k.descriptors.get? n
  | .negSucc _ => none

def file? (k : Kernel) (d : Descriptor) : Option OpenFile := (k.fileId? d).bind (k.files[·]?)

def object (k : Kernel) (id : ObjectId) : Object := k.objects.getD id default

def modifyObject (k : Kernel) (id : ObjectId) (f : Object → Object) : Kernel :=
  { k with objects := k.objects.modify id f }

/-- How many descriptors are open. -/
def openCount (k : Kernel) : Nat := k.descriptors.count

def atLimit (k : Kernel) : Bool := k.limit.any (· ≤ k.openCount)

/-- Makes a system call: the plan may refuse it, else it is answered from the state. A failed call
changes nothing but the error cell. -/
def invoke {α : Type} (call : Call) (answer : Kernel → Except Errno (α × Kernel)) (k : Kernel) :
    Option α × Kernel :=
  let outcome : Except Errno (α × Kernel) :=
    match k.refusal k.history call with
    | some e => .error e
    | none => answer k
  match outcome with
  | .error e => (none, { k with lastError := e, history := ⟨call, some e⟩ :: k.history })
  | .ok (a, k') => (some a, { k' with history := ⟨call, none⟩ :: k'.history })

/-- Gives an open file a descriptor, unless the limit is reached. -/
def install (id : FileId) (k : Kernel) : Except Errno (Descriptor × Kernel) :=
  if k.atLimit then .error .tooManyOpen
  else
    let (n, descriptors) := k.descriptors.insert id
    .ok (⟨n⟩, { k with descriptors })

/-- Opens an object and gives the new open file a descriptor. -/
def openObject (object : ObjectId) (access : Access) (k : Kernel) :
    Except Errno (Descriptor × Kernel) :=
  install k.files.length { k with files := k.files ++ [⟨object, access⟩] }

/-- Adds an object and opens it. -/
def openNew (object : Object) (access : Access) (k : Kernel) : Except Errno (Descriptor × Kernel) :=
  openObject k.objects.length access { k with objects := k.objects ++ [object] }

/-- Answers a call on a descriptor, which must be open. -/
def onFile {α : Type} (d : Descriptor) (answer : OpenFile → Kernel → Except Errno α) (k : Kernel) :
    Except Errno α :=
  match k.file? d with
  | none => .error .badDescriptor
  | some file => answer file k

end Kernel

end SharedMemory
