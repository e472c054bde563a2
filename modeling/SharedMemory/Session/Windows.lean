import SharedMemory.Session.Basic
import SharedMemory.Window.Object
/-!
# Steps on windows

Mapping the regions of a session, and reading and writing through the windows.
-/
namespace SharedMemory.Session

variable {H : Type} [Backing H]

/-- Maps a region, or no region at all, and answers with the window. -/
def map (source : Option String) (offset size : Nat) (layout : Layout) (dest : String)
    (fault : Option Fault) : Script H (Except WindowError Window) := do
  let r ← source.mapM region
  let request : WindowRequest H := { region := r, offset, size, layout }
  match ← act ((Window.ofRequest request).under fault (r.bind (·.handle))) with
  | .error e => return .error e
  | .ok w =>
    putWindow dest w
    return .ok w

/-- Maps the whole of a region by the layout of the host. -/
def mapAll (source dest : String) : Script H (Except WindowError Window) := do
  let r ← region source
  map (some source) 0 r.size (← get).system.kernel.layout dest none

def write (name : String) (data : List UInt8) (offset : Nat) :
    Script H (Except WindowError Nat) := do
  let w ← window name
  act (w.writeSlice data offset)

def read (name : String) (buffer : List UInt8) (offset : Nat) :
    Script H (Except WindowError (Nat × List UInt8)) := do
  let w ← window name
  act (w.readSlice buffer offset)

def writeObject {α : Type} (name : String) (e : Encoding α) (value : α) (offset : Nat) :
    Script H (Except WindowError Unit) := do
  let w ← window name
  act (w.writeObject e value offset)

def readObject {α : Type} (name : String) (e : Encoding α) (offset : Nat) :
    Script H (Except WindowError α) := do
  let w ← window name
  act (w.readObject e offset)

end SharedMemory.Session
