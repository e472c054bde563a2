import SharedMemory.Session.Basic
/-!
# Steps on handles

The native operations of a backing, on handles that are kept by themselves or belong to a region,
the dropping of what a session keeps, and what can be done with a loose descriptor.
-/
namespace SharedMemory.Session

variable {H : Type} [Backing H]

def allocate (mode : Mode) (size : Nat) (dest : String) (fault : Option Fault) :
    Script H (Except Errno HandleView) := do
  match ← act ((Backing.allocate (H := H) mode size).under fault (none : Option H)) with
  | .error e => return .error e
  | .ok h =>
    putHandle dest h
    return .ok (← viewHandle h)

def inspectHandle (source : Holder) : Script H HandleView := do viewHandle (← holder source)

def duplicateHandle (source : Holder) (dest : String) (fault : Option Fault) :
    Script H (Except Errno HandleView) := do
  let h ← holder source
  match ← act ((Backing.duplicate h).under fault (some h)) with
  | .error e => return .error e
  | .ok copy =>
    putHandle dest copy
    return .ok (← viewHandle copy)

/-- Carries out the native part of a conversion. The view is that of the handle afterwards. -/
def convertHandle (name : String) (c : Region.Conversion H) (fault : Option Fault) :
    Script H (Except Errno Unit × HandleView) := do
  let h ← handle name
  match ← act ((c.native h).under fault (some h)) with
  | .error e => return (.error e, ← viewHandle h)
  | .ok converted =>
    modify fun s => { s with handles := s.handles.put name converted }
    return (.ok (), ← viewHandle converted)

def check (source : Holder) (mode : Mode) (size : Nat) (fault : Option Fault) : Script H Bool := do
  let h ← holder source
  act ((Backing.corresponds h mode size).under fault (some h))

/-- Whether the mapped descriptors of two handles count as equal, and whether they have one
number. -/
def compare (a b : Holder) : Script H (Bool × Bool) := do
  let a := Backing.descriptor (← holder a)
  let b := Backing.descriptor (← holder b)
  return (← act (Backing.sameFile H a b), a == b)

/-- Maps bytes of the object of a handle and unmaps them at once. -/
def tryMap (source : Holder) (protection : Protection) (offset size : Nat)
    (fault : Option Fault) : Script H (Except WindowError Nat) := do
  let h ← holder source
  let mapped ← act ((Window.mapNative (Backing.descriptor h) offset size protection).under fault
    (some h))
  match mapped with
  | .error e => return .error e
  | .ok id =>
    let _ ← act (Effect.attempt (Kernel.unmap id))
    return .ok size

/-- Drops what is kept under a name, and says whether anything was. -/
def discardRegion (name : String) : Script H Bool := do
  let old := (← get).regions.get? name
  modify fun s => { s with regions := s.regions.erase name }
  dropRegion old
  return old.isSome

def discardHandle (name : String) : Script H Bool := do
  let old := (← get).handles.get? name
  modify fun s => { s with handles := s.handles.erase name }
  dropHandle old
  return old.isSome

def discardWindow (name : String) : Script H Bool := do
  let old := (← get).windows.get? name
  modify fun s => { s with windows := s.windows.erase name }
  dropWindow old
  return old.isSome

def discardDescriptor (name : String) : Script H Bool := do
  let old := (← get).loose.get? name
  modify fun s => { s with loose := s.loose.erase name }
  dropDescriptor old
  return old.isSome

/-- Clones a descriptor, which stays where it is. -/
def keepClone (d : Descriptor) (dest : String) : Script H (Except Errno DescriptorView) := do
  match ← act (Effect.attempt (Kernel.duplicate d)) with
  | .error e => return .error e
  | .ok copy =>
    putDescriptor dest copy
    return .ok (← viewDescriptor copy)

/-- Clones a loose descriptor. -/
def cloneDescriptor (source dest : String) : Script H (Except Errno DescriptorView) := do
  keepClone (← descriptor source) dest

/-- Clones a descriptor of a handle that is only borrowed. -/
def cloneBorrowed (source : Holder) (spare : Bool) (dest : String) :
    Script H (Except Errno DescriptorView) := do
  match Backing.descriptor? (← holder source) spare with
  | some d => keepClone d dest
  | none => failure

/-- Gives up a loose descriptor without closing it, and answers with its number. -/
def letGo (name : String) : Script H Descriptor := do
  let d ← descriptor name
  modify fun s => { s with loose := s.loose.erase name }
  return d

/-- Takes over a descriptor that nobody else closes. -/
def takeUp (d : Descriptor) (dest : String) : Script H DescriptorView := do
  putDescriptor dest d
  viewDescriptor d

/-- One end of a new pipe, the other end being closed. -/
def pipeEnd (reader : Bool) : Effect (Except Errno Descriptor) := do
  match ← Effect.attempt Kernel.makePipe with
  | .error e => return .error e
  | .ok (r, w) =>
    Backing.closeDescriptor (if reader then w else r)
    return .ok (if reader then r else w)

end SharedMemory.Session
