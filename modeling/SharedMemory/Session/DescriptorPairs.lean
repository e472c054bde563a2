import SharedMemory.Backing.DescriptorPair
import SharedMemory.Session.Handles
/-!
# Steps on descriptor pairs

Taking pairs apart into loose descriptors and putting loose descriptors together.
-/
namespace SharedMemory.Session

/-- Takes a pair apart. -/
def takeApart (source dest spareDest : String) :
    Script DescriptorPair (DescriptorView × Option DescriptorView) := do
  let h ← handle source
  modify fun s => { s with handles := s.handles.erase source }
  putDescriptor dest h.fd
  let first ← viewDescriptor h.fd
  match h.spare with
  | none => return (first, none)
  | some spare =>
    putDescriptor spareDest spare
    return (first, some (← viewDescriptor spare))

/-- Makes a pair of a loose descriptor, which is used up, and possibly a clone of another. -/
def join (first : String) (spare : Option String) (dest : String) :
    Script DescriptorPair (Except Errno HandleView) := do
  let d ← descriptor first
  let cloned ←
    match spare with
    | none => pure (.ok none)
    | some name =>
      let s ← descriptor name
      let outcome ← act (Effect.attempt (Kernel.duplicate s))
      pure (outcome.map some)
  match cloned with
  | .error e => return .error e
  | .ok spare =>
    modify fun s => { s with loose := s.loose.erase first }
    let h : DescriptorPair := ⟨d, spare⟩
    putHandle dest h
    return .ok (← viewHandle h)

/-- Puts a descriptor made elsewhere under a name: an end of a pipe, or a number that is none. -/
def adopt (d : Effect (Except Errno Descriptor)) (dest : String) :
    Script DescriptorPair (Except Errno DescriptorView) := do
  match ← act d with
  | .error e => return .error e
  | .ok d =>
    putDescriptor dest d
    return .ok (← viewDescriptor d)

end SharedMemory.Session
