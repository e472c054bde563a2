import SharedMemory.Kernel.Basic
import SharedMemory.Session.Slots
import SharedMemory.Window.Object
/-!
# Galleries

A gallery keeps the bytes of every object and for every window the place that it shows. Reading and
writing through a window is a matter of these alone: nothing is said of regions, handles,
descriptors and mappings.
-/
namespace SharedMemory

/-- The bytes of an object from an offset on, either for reading alone or also for writing. -/
structure Pane where
  object : ObjectId
  offset : Nat
  size : Nat
  writable : Bool

def Pane.Covers (pane : Pane) (o : ObjectId) (p : Nat) : Prop :=
  o = pane.object ∧ pane.offset ≤ p ∧ p < pane.offset + pane.size

/-- The bytes of all objects, and the panes of the windows. -/
structure Gallery where
  bytes : ObjectId → Nat → UInt8
  panes : Slots Pane := .empty

namespace Gallery

/-- The bytes that a pane shows from a position on. -/
def view (g : Gallery) (pane : Pane) (position count : Nat) : List UInt8 :=
  (List.range' (pane.offset + position) count).map (g.bytes pane.object)

/-- Puts bytes in the place of those that a pane shows from a position on. -/
def put (g : Gallery) (pane : Pane) (position : Nat) (data : List UInt8) : Gallery :=
  let start := pane.offset + position
  { g with bytes := fun o p =>
      if o = pane.object ∧ start ≤ p ∧ p < start + data.length then data.getD (p - start) 0
      else g.bytes o p }

/-- Copies bytes into a pane as far as it reaches. -/
def write (g : Gallery) (pane : Pane) (data : List UInt8) (position : Nat) :
    Except WindowError Nat × Gallery :=
  if pane.writable = false then (.error .notWritable, g)
  else if pane.size < position then (.error .invalidAddress, g)
  else (.ok (min (pane.size - position) data.length),
    g.put pane position (data.take (pane.size - position)))

/-- Lays an object out in a pane if it fits. -/
def writeObject {α : Type} (g : Gallery) (pane : Pane) (e : Encoding α) (value : α)
    (position : Nat) : Except WindowError Unit × Gallery :=
  if pane.writable = false then (.error .notWritable, g)
  else if pane.size < position + e.size then (.error .invalidAddress, g)
  else (.ok (), g.put pane position (e.encode value))

/-- Copies bytes of a pane over the first bytes of a buffer, as far as both reach. -/
def read (g : Gallery) (pane : Pane) (buffer : List UInt8) (position : Nat) :
    Except WindowError (Nat × List UInt8) :=
  let count := min (pane.size - position) buffer.length
  if pane.size < position then .error .invalidAddress
  else .ok (count, g.view pane position count ++ buffer.drop count)

def readObject {α : Type} (g : Gallery) (pane : Pane) (e : Encoding α) (position : Nat) :
    Except WindowError α :=
  if pane.size < position + e.size then .error .invalidAddress
  else .ok (e.decode (g.view pane position e.size))

/-- Hangs a pane if there is a window that shows it. -/
def hang (g : Gallery) (dest : String) (pane : Option Pane) :
    Option (Except WindowError Window) → Gallery
  | some (.ok _) => pane.elim g fun pane => { g with panes := g.panes.put dest pane }
  | _ => g

variable {g : Gallery} {pane : Pane} {o : ObjectId} {p : Nat}

private theorem put_outside {position : Nat} {data : List UInt8}
    (h : position + data.length ≤ pane.size) (hp : ¬ pane.Covers o p) :
    (g.put pane position data).bytes o p = g.bytes o p :=
  if_neg fun hin => hp ⟨hin.1, by omega, by omega⟩

theorem write_outside (g : Gallery) (data : List UInt8) (position : Nat)
    (hp : ¬ pane.Covers o p) : (g.write pane data position).2.bytes o p = g.bytes o p := by
  unfold write
  split
  · rfl
  · split
    · rfl
    · refine put_outside ?_ hp
      rw [List.length_take]
      omega

theorem writeObject_outside {α : Type} (g : Gallery) (e : Encoding α) (value : α) (position : Nat)
    (hp : ¬ pane.Covers o p) :
    (g.writeObject pane e value position).2.bytes o p = g.bytes o p := by
  unfold writeObject
  split
  · rfl
  · split
    · rfl
    · refine put_outside ?_ hp
      rw [e.length_encode]
      omega

private theorem view_congr {bytes : ObjectId → Nat → UInt8}
    (h : ∀ o p, pane.Covers o p → bytes o p = g.bytes o p) {position count : Nat}
    (hcount : position + count ≤ pane.size) :
    ({ g with bytes } : Gallery).view pane position count = g.view pane position count := by
  refine List.map_congr_left fun p hp => h pane.object p ⟨rfl, ?_⟩
  rw [List.mem_range'_1] at hp
  omega

theorem read_congr {bytes : ObjectId → Nat → UInt8}
    (h : ∀ o p, pane.Covers o p → bytes o p = g.bytes o p) (buffer : List UInt8)
    (position : Nat) :
    ({ g with bytes } : Gallery).read pane buffer position = g.read pane buffer position := by
  unfold read
  dsimp only
  split
  · rfl
  · rw [view_congr h (by omega)]

theorem readObject_congr {α : Type} {bytes : ObjectId → Nat → UInt8}
    (h : ∀ o p, pane.Covers o p → bytes o p = g.bytes o p) (e : Encoding α) (position : Nat) :
    ({ g with bytes } : Gallery).readObject pane e position = g.readObject pane e position := by
  unfold readObject
  split
  · rfl
  · rw [view_congr h (by omega)]

end Gallery

end SharedMemory
