import SharedMemory.Window
import SharedMemory.Window.Encoding
/-!
# Objects in windows

Reading and writing whole values of an encoded type at any offset. Unlike a run of bytes, an object
that does not fit into the window is refused.
-/
namespace SharedMemory.Window

variable {α : Type}

def writeObject (w : Window) (e : Encoding α) (value : α) (offset : Nat) :
    Effect (Except WindowError Unit) := do
  if ¬ w.protection.write then return .error .notWritable
  else if ¬ rangeWithin offset e.size w.size then return .error .invalidAddress
  else
    w.put offset (e.encode value)
    return .ok ()

def readObject (w : Window) (e : Encoding α) (offset : Nat) : Effect (Except WindowError α) := do
  if ¬ rangeWithin offset e.size w.size then return .error .invalidAddress
  else return .ok (e.decode (w.view (← get).kernel offset e.size))

end SharedMemory.Window
