import SharedMemory.Backing.SealedFile
import SharedMemory.Session.Handles
/-!
# Steps on sealed files

Descriptors made by others and wrapped as handles, seals added behind the back of a region, and
the way of a handle through a bare descriptor number.
-/
namespace SharedMemory.Session

/-- Where a wrapped descriptor comes from. -/
inductive Source where
  /-- A memory object of a size, which may refuse all seals. -/
  | memory (size : Nat) (sealing : Bool)
  | pipeReader
  | pipeWriter
  /-- A number that is no descriptor. -/
  | nowhere
  /-- The object of a handle, opened anew. -/
  | reopened (source : Holder) (access : Access)
  deriving DecidableEq, Repr

def makeDescriptor (source : Source) : Script SealedFile (Except Errno Descriptor) := do
  match source with
  | .memory size sealing =>
    match ← act (Effect.attempt (Kernel.createMemory sealing)) with
    | .error e => return .error e
    | .ok d =>
      let _ ← act (Effect.attempt (Kernel.setLength d (SealedFile.signed size)))
      return .ok d
  | .pipeReader => act (pipeEnd true)
  | .pipeWriter => act (pipeEnd false)
  | .nowhere => return .ok ⟨-1⟩
  | .reopened source access =>
    let h ← holder source
    act (Effect.attempt (Kernel.reopen h.fd access))

/-- Wraps a descriptor made elsewhere as a handle. -/
def wrap (source : Source) (dest : String) : Script SealedFile (Except Errno HandleView) := do
  match ← makeDescriptor source with
  | .error e => return .error e
  | .ok d =>
    let h : SealedFile := ⟨d⟩
    putHandle dest h
    return .ok (← viewHandle h)

/-- Adds the seals of a mask to the object of a handle. The call takes the low 32 bits of it. -/
def sealObject (source : Holder) (mask : Nat) :
    Script SealedFile (Except Errno Unit × HandleView) := do
  let h ← holder source
  let outcome ← act (Effect.attempt (Kernel.addSeals h.fd (mask % UInt32.size)))
  return (outcome, ← viewHandle h)

/-- Takes the descriptor out of a handle. -/
def unwrap (source dest : String) : Script SealedFile DescriptorView := do
  let h ← handle source
  modify fun s => { s with handles := s.handles.erase source }
  putDescriptor dest h.fd
  viewDescriptor h.fd

/-- Makes a handle of a loose descriptor, which is used up. -/
def enclose (source dest : String) : Script SealedFile HandleView := do
  let d ← descriptor source
  modify fun s => { s with loose := s.loose.erase source }
  let h : SealedFile := ⟨d⟩
  putHandle dest h
  viewHandle h

/-- Takes a handle apart and makes it anew of the number of its descriptor. The second part says
whether the number is still the same. -/
def rewrap (name : String) : Script SealedFile (HandleView × Bool) := do
  let h ← handle name
  let number := h.fd.number
  let rebuilt : SealedFile := ⟨⟨number⟩⟩
  modify fun s => { s with handles := s.handles.put name rebuilt }
  return (← viewHandle rebuilt, rebuilt.fd.number == number)

end SharedMemory.Session
