import SharedMemory.Proofs.Complete
import SharedMemory.Proofs.Session.Steps
/-!
# Ledgers

A ledger is what a session comes to if nothing is said of descriptors and seals. For a handle it
keeps the object and the mode that the handle stands for, and it says outright what each step
answers and leads to if the kernel refuses only what it must.
-/
namespace SharedMemory

open Kernel

/-- The object of a handle and the mode that the handle grants. -/
structure Grant where
  object : ObjectId
  mode : Mode
  deriving DecidableEq

/-- What there is to tell about a region, whatever stands behind it. -/
structure Summary where
  valid : Bool
  header : Header
  deriving DecidableEq

def Region.summary {H : Type} (r : Region H) : Summary := ⟨r.isValid, r.header⟩

def RegionView.summary (v : RegionView) : Summary := ⟨v.handle.isSome, ⟨v.mode, v.size, v.guid⟩⟩

theorem RegionView.summary_of {H : Type} [Backing H] (r : Region H) (k : Kernel) :
    (RegionView.of r k).summary = r.summary := by
  simp only [RegionView.summary, RegionView.of, Option.isSome_map, Region.summary, Region.isValid,
    Region.header]

namespace Region.Downgrade

def goal : Downgrade → Mode
  | readOnly => .readOnly
  | shared => .shared

def misuse : Downgrade → Misuse
  | readOnly => .convertToReadOnly
  | shared => .convertToShared

variable {H : Type} [Backing H]

@[simp] theorem conversion_goal (g : Downgrade) : (g.conversion (H := H)).goal = g.goal := by
  cases g <;> rfl

@[simp] theorem conversion_misuse (g : Downgrade) : (g.conversion (H := H)).misuse = g.misuse := by
  cases g <;> rfl

end Region.Downgrade

structure Ledger where
  /-- The objects and the mappings, and the identifiers to come. -/
  system : System
  regions : Slots (Region Grant) := {}
  handles : Slots Grant := {}
  windows : Slots Window := {}

namespace Ledger

section

variable (s : System)

/-- A region is made: it has a new object, unless there is none of that size. -/
def make (mode : Mode) (size : Nat) (layout : Layout) : Except Failure (Region Grant) × System :=
  if mode = .readOnly then (.error (.misuse .createReadOnly), s)
  else if ¬ validSize size then (.error (.error (.invalidSize size)), s)
  else
    match layout.roundUp? size with
    | none => (.error (.error (.invalidSize size)), s)
    | some allocated =>
      if allocated ≤ maxPosition then
        (.ok ⟨some ⟨s.kernel.objects.length, mode⟩, mode, size, s.guids.next⟩,
          { s.grow allocated with guids := s.guids.advance })
      else (.error (.error (.allocate size .invalidArgument)), s.grow 0)

def addMapping (m : Mapping) : System :=
  { s with kernel := { s.kernel with mappings := (s.kernel.mappings.insert m).2 } }

/-- A window that was there goes out of use. -/
def unmap (w : Option Window) : System :=
  match w with
  | none => s
  | some w => { s with kernel := { s.kernel with mappings := s.kernel.mappings.erase w.mapping } }

end

section

variable (k : Kernel)

/-- The check of a handle. -/
def confirms (g : Grant) (mode : Mode) (size : Nat) : Bool :=
  g.mode = mode && size ≤ (k.object g.object).length

def accept (g : Grant) (header : Header) : Except RegionError (Region Grant) :=
  if ¬ validSize header.size then .error (.invalidSize header.size)
  else if confirms k g header.mode header.size then
    .ok ⟨some g, header.mode, header.size, header.guid⟩
  else .error (.permissionMismatch header.mode)

/-- The window of a region, and the mapping behind it. -/
def expose (r : Option (Region Grant)) (offset size : Nat) (layout : Layout) :
    Except WindowError (Window × Mapping) :=
  match r with
  | none => .error .invalidArgument
  | some r =>
    match r.handle with
    | none => .error .invalidRegion
    | some g =>
      if size = 0 then .error .invalidArgument
      else if ¬ rangeWithin offset size r.size then .error (.invalidRange offset size r.size)
      else
        let start := layout.alignDown offset
        let protection := Protection.ofMode r.mode
        if start % k.pageSize = 0 then
          .ok (⟨k.mappings.free, offset - start, size, protection⟩,
            ⟨g.object, start, size + (offset - start), protection.write⟩)
        else .error (.systemCallFailed .invalidArgument)

end

/-- A region is converted. -/
def downgrade (r : Region Grant) (goal : Region.Downgrade) : Except Failure (Region Grant) :=
  match r.handle with
  | none => .error (.error .invalidRegion)
  | some g =>
    if r.mode ≠ .writable then .error (.misuse goal.misuse)
    else .ok { r with handle := some { g with mode := goal.goal }, mode := goal.goal }

/-- Another region over the same object. -/
def copy (r : Region Grant) : Except Failure (Region Grant) :=
  match r.handle with
  | none => .error (.error .invalidRegion)
  | some _ => if r.mode = .writable then .error (.misuse .duplicateWritable) else .ok r

variable (l : Ledger)

def holder? : Holder → Option Grant
  | .handle name => l.handles.get? name
  | .region name => (l.regions.get? name).bind (·.handle)

def create (mode : Mode) (size : Nat) (layout : Layout) (dest : String) :
    Except Failure Summary × Ledger :=
  match make l.system mode size layout with
  | (.error e, system) => (.error e, { l with system })
  | (.ok r, system) => (.ok r.summary, { l with system, regions := l.regions.put dest r })

/-- What comes of a step on a value that a name stands for. Where the name is vacant there is no
step. -/
def onValue {α β : Type} (value : Option α) (f : α → β × Ledger) : Option β × Ledger :=
  match value with
  | none => (none, l)
  | some a => (some (f a).1, (f a).2)

def convert (name : String) (goal : Region.Downgrade) :
    Option (Except Failure Unit × Summary) × Ledger :=
  l.onValue (l.regions.get? name) fun r =>
    match downgrade r goal with
    | .error e => ((.error e, r.summary), l)
    | .ok r => ((.ok (), r.summary), { l with regions := l.regions.put name r })

def duplicate (source dest : String) : Option (Except Failure (Summary × Summary)) × Ledger :=
  l.onValue (l.regions.get? source) fun r =>
    match copy r with
    | .error e => (.error e, l)
    | .ok c => (.ok (c.summary, r.summary), { l with regions := l.regions.put dest c })

def move (source dest : String) : Option (Summary × Summary) × Ledger :=
  l.onValue (l.regions.get? source) fun r =>
    ((r.summary, (Region.invalid : Region Grant).summary),
      { l with regions := (l.regions.put source .invalid).put dest r })

/-- A handle is laid down under a name, if there is one. -/
def lay (dest : String) (g : Option Grant) : Ledger :=
  match g with
  | none => l
  | some g => { l with handles := l.handles.put dest g }

def takeHandle (source dest : String) : Option (Bool × Summary) × Ledger :=
  l.onValue (l.regions.get? source) fun r =>
    ((r.isValid, (Region.invalid : Region Grant).summary),
      ({ l with regions := l.regions.put source .invalid } : Ledger).lay dest r.handle)

def passHandle (source dest : String) : Option Bool × Ledger :=
  l.onValue (l.regions.get? source) fun r =>
    (r.isValid, ({ l with regions := l.regions.erase source } : Ledger).lay dest r.handle)

def split (source dest : String) : Option (Option Header) × Ledger :=
  l.onValue (l.regions.get? source) fun r =>
    (r.handle.map fun _ => r.header,
      ({ l with regions := l.regions.erase source } : Ledger).lay dest r.handle)

def take (source : String) (header : Header) (dest : String) :
    Option (Except RegionError Summary) × Ledger :=
  l.onValue (l.handles.get? source) fun g =>
    match accept l.system.kernel g header with
    | .error e => (.error e, { l with handles := l.handles.erase source })
    | .ok r =>
      (.ok r.summary,
        { l with handles := l.handles.erase source, regions := l.regions.put dest r })

def map (source : Option String) (offset size : Nat) (layout : Layout) (dest : String) :
    Option (Except WindowError Window) × Ledger :=
  l.onValue (source.mapM l.regions.get?) fun r =>
    match expose l.system.kernel r offset size layout with
    | .error e => (.error e, l)
    | .ok (w, m) =>
      (.ok w,
        { l with
          system := unmap (addMapping l.system m) (l.windows.get? dest)
          windows := l.windows.put dest w })

/-- The check of a handle that is in use. -/
def check (source : Holder) (mode : Mode) (size : Nat) : Option Bool × Ledger :=
  l.onValue (l.holder? source) fun g => (confirms l.system.kernel g mode size, l)

/-- Reading or writing through a window. -/
def through {α : Type} (name : String) (a : Window → Effect α) : Option α × Ledger :=
  l.onValue (l.windows.get? name) fun w =>
    (((a w).run l.system).1, { l with system := ((a w).run l.system).2 })

def discardWindow (name : String) : Bool × Ledger :=
  ((l.windows.get? name).isSome,
    { l with
      system := unmap l.system (l.windows.get? name), windows := l.windows.erase name })

end Ledger

namespace Session

/-- The kind of what a step answers, as far as it does not depend on the backing. -/
def Step.Answer : Step → Type
  | .create .. => Except Failure Summary
  | .vacate .. | .inspect .. => Summary
  | .convert .. => Except Failure Unit × Summary
  | .duplicate .. => Except Failure (Summary × Summary)
  | .move .. => Summary × Summary
  | .takeHandle .. => Bool × Summary
  | .passHandle .. => Bool
  | .split .. => Option Header
  | .take .. => Except RegionError Summary
  | .map .. => Except WindowError Window
  | .write .. => Except WindowError Nat
  | .read .. => Except WindowError (Nat × List UInt8)
  | .writeObject .. => Except WindowError Unit
  | @Step.readObject α .. => Except WindowError α
  | .discardRegion .. | .discardHandle .. | .discardWindow .. => Bool

end Session

/-- What a step answers, and the ledger after it. -/
def Ledger.step (l : Ledger) : (step : Session.Step) → Option step.Answer × Ledger
  | .create mode size layout dest =>
    (some (l.create mode size layout dest).1, (l.create mode size layout dest).2)
  | .vacate dest =>
    (some (Region.invalid : Region Grant).summary,
      { l with regions := l.regions.put dest .invalid })
  | .convert name goal => l.convert name goal
  | .duplicate source dest => l.duplicate source dest
  | .inspect name => l.onValue (l.regions.get? name) fun r => (r.summary, l)
  | .move source dest => l.move source dest
  | .takeHandle source dest => l.takeHandle source dest
  | .passHandle source dest => l.passHandle source dest
  | .split source dest => l.split source dest
  | .take source header dest => l.take source header dest
  | .map source offset size layout dest => l.map source offset size layout dest
  | .write name data offset => l.through name fun w => w.writeSlice data offset
  | .read name buffer offset => l.through name fun w => w.readSlice buffer offset
  | .writeObject name e value offset => l.through name fun w => w.writeObject e value offset
  | .readObject name e offset => l.through name fun w => w.readObject e offset
  | .discardRegion name =>
    (some (l.regions.get? name).isSome, { l with regions := l.regions.erase name })
  | .discardHandle name =>
    (some (l.handles.get? name).isSome, { l with handles := l.handles.erase name })
  | .discardWindow name => (some (l.discardWindow name).1, (l.discardWindow name).2)

end SharedMemory
