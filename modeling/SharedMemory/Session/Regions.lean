import SharedMemory.Session.Basic
/-!
# Steps on regions

Making, converting, duplicating and handing over the regions of a session. Each step answers with
views of what it made or changed.
-/
namespace SharedMemory.Session

variable {H : Type} [Backing H]

def create (mode : Mode) (size : Nat) (layout : Layout) (dest : String) (fault : Option Fault) :
    Script H (Except Failure RegionView) := do
  match ← act ((Region.create mode size layout).under fault (none : Option H)) with
  | .error e => return .error e
  | .ok r =>
    putRegion dest r
    return .ok (← viewRegion r)

/-- Puts an invalid region under a name. -/
def vacate (dest : String) : Script H RegionView := do
  putRegion dest (Region.invalid : Region H)
  viewRegion (Region.invalid : Region H)

/-- Converts a region in its place. The view is that of the region afterwards. -/
def convert (name : String) (c : Region.Conversion H) (fault : Option Fault) :
    Script H (Except Failure Unit × RegionView) := do
  let r ← region name
  match ← act ((r.convert c).under fault r.handle) with
  | .error e => return (.error e, ← viewRegion r)
  | .ok converted =>
    modify fun s => { s with regions := s.regions.put name converted }
    return (.ok (), ← viewRegion converted)

/-- Duplicates a region. The second view is that of the source. -/
def duplicate (source dest : String) (fault : Option Fault) :
    Script H (Except Failure (RegionView × RegionView)) := do
  let r ← region source
  match ← act (r.duplicate.under fault r.handle) with
  | .error e => return .error e
  | .ok copy =>
    let before ← viewRegion r
    putRegion dest copy
    return .ok (← viewRegion copy, before)

def inspect (name : String) : Script H RegionView := do viewRegion (← region name)

/-- Moves a region and leaves an invalid one in its place. The second view is of what is left. -/
def move (source dest : String) : Script H (RegionView × RegionView) := do
  let r ← region source
  modify fun s => { s with regions := s.regions.put source .invalid }
  let left ← viewRegion (Region.invalid : Region H)
  putRegion dest r
  return (← viewRegion r, left)

/-- Takes the handle of a region and leaves the region invalid. -/
def takeHandle (source dest : String) : Script H (Option HandleView × RegionView) := do
  let r ← region source
  modify fun s => { s with regions := s.regions.put source .invalid }
  let left ← viewRegion (Region.invalid : Region H)
  match r.handle with
  | none => return (none, left)
  | some h =>
    putHandle dest h
    return (some (← viewHandle h), left)

/-- Takes the handle of a region and gives the region up. -/
def passHandle (source dest : String) : Script H (Option HandleView) := do
  let r ← region source
  modify fun s => { s with regions := s.regions.erase source }
  match r.handle with
  | none => return none
  | some h =>
    putHandle dest h
    return some (← viewHandle h)

/-- Splits a region into a handle and a header, kept under one name. -/
def split (source dest : String) : Script H (Option (HandleView × Header)) := do
  let r ← region source
  modify fun s => { s with regions := s.regions.erase source }
  match r.parts? with
  | none => return none
  | some (h, header) =>
    putHandle dest h
    modify fun s => { s with headers := s.headers.put dest header }
    return some (← viewHandle h, header)

/-- Makes a region of a handle and a header. The handle is used up in any case. -/
def take (source : String) (header : Header) (dest : String) :
    Script H (Except RegionError RegionView) := do
  let h ← handle source
  modify fun s => { s with handles := s.handles.erase source }
  match ← act (Region.take h header) with
  | .error e => return .error e
  | .ok r =>
    putRegion dest r
    return .ok (← viewRegion r)

end SharedMemory.Session
