import SharedMemory.Logging.Logger
import SharedMemory.Session.Fault
import SharedMemory.Session.Slots
import SharedMemory.Session.View
import SharedMemory.Window
/-!
# Sessions

A session is a process that keeps regions, handles, windows and loose descriptors under names. A
value put under a name that is in use takes the place of the old value, which is then dropped. A
script is a piece of a session's work; it stops without an answer at a name that is vacant.
-/
namespace SharedMemory

structure Session (H : Type) where
  system : System := {}
  logging : Logging := {}
  regions : Slots (Region H) := {}
  handles : Slots H := {}
  /-- The headers of the handles that were split off a region. -/
  headers : Slots Header := {}
  windows : Slots Window := {}
  loose : Slots Descriptor := {}

/-- A session at its start, with the random numbers of a seed. -/
def Session.ofSeed {H : Type} (seed : UInt64) : Session H := { system := .ofSeed seed }

abbrev Script (H : Type) := OptionT (StateM (Session H))

/-- The handle that a step is about: one that is kept by itself, or that of a region. -/
inductive Holder where
  | handle (name : String)
  | region (name : String)
  deriving DecidableEq, Repr

namespace Session

variable {H α : Type}

/-- Does something with the system alone. -/
def act (a : Effect α) : Script H α :=
  (modifyGet fun s =>
    let (x, system) := a.run s.system
    (x, { s with system }) : StateM (Session H) α)

/-- Does something with the logger alone. -/
def log (a : StateM Logging α) : Script H α :=
  (modifyGet fun s =>
    let (x, logging) := a.run s.logging
    (x, { s with logging }) : StateM (Session H) α)

/-- The value of a name that is in use. -/
def held (table : Session H → Slots α) (name : String) : Script H α := do
  match (table (← get)).get? name with
  | some a => return a
  | none => failure

def region (name : String) : Script H (Region H) := held regions name

def handle (name : String) : Script H H := held handles name

def window (name : String) : Script H Window := held windows name

def descriptor (name : String) : Script H Descriptor := held loose name

/-- The handle of a holder. A region without a handle holds none. -/
def holder? (s : Session H) : Holder → Option H
  | .handle name => s.handles.get? name
  | .region name => (s.regions.get? name).bind (·.handle)

def holder (h : Holder) : Script H H := do
  match (← get).holder? h with
  | some handle => return handle
  | none => failure

variable [Backing H]

def dropRegion (r : Option (Region H)) : Script H Unit :=
  match r with
  | none => return ()
  | some r => act r.release

def dropHandle (h : Option H) : Script H Unit :=
  match h with
  | none => return ()
  | some h => act (Backing.release h)

def dropWindow (w : Option Window) : Script H Unit :=
  match w with
  | none => return ()
  | some w => act w.release

def dropDescriptor (d : Option Descriptor) : Script H Unit :=
  match d with
  | none => return ()
  | some d => act (Backing.closeDescriptor d)

def putRegion (name : String) (r : Region H) : Script H Unit := do
  let old := (← get).regions.get? name
  modify fun s => { s with regions := s.regions.put name r }
  dropRegion old

def putHandle (name : String) (h : H) : Script H Unit := do
  let old := (← get).handles.get? name
  modify fun s => { s with handles := s.handles.put name h }
  dropHandle old

def putWindow (name : String) (w : Window) : Script H Unit := do
  let old := (← get).windows.get? name
  modify fun s => { s with windows := s.windows.put name w }
  dropWindow old

def putDescriptor (name : String) (d : Descriptor) : Script H Unit := do
  let old := (← get).loose.get? name
  modify fun s => { s with loose := s.loose.put name d }
  dropDescriptor old

def viewRegion (r : Region H) : Script H RegionView :=
  return .of r (← get).system.kernel

def viewHandle (h : H) : Script H HandleView :=
  return .of h (← get).system.kernel

def viewDescriptor (d : Descriptor) : Script H DescriptorView :=
  return .of d (← get).system.kernel

/-- How many descriptors are open. -/
def openCount (s : Session H) : Nat := s.system.kernel.openCount

/-- Takes the records that were written and keeps those that are printed, earliest first. -/
def printed : Script H (List Record) := do
  let s ← get
  set { s with system := { s.system with journal := [] } }
  return s.system.journal.reverse.filter s.logging.prints

end Session

end SharedMemory
