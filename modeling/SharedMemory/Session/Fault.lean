import SharedMemory.Backing.Basic
/-!
# Faults

Conditions under which an operation is tried out: a descriptor of the handle is closed meanwhile,
or only so many more descriptors can be made. Afterwards the descriptor is back under its number,
and the limit is gone.
-/
namespace SharedMemory

namespace Kernel

/-- Gives a number to an open file. Whatever had the number loses it. -/
def reseat (d : Descriptor) (id : FileId) (k : Kernel) : Kernel :=
  match d.number with
  | .ofNat n => { k with descriptors := k.descriptors.put n (some id) }
  | .negSucc _ => k

end Kernel

inductive Fault where
  | closed
  | closedReserve
  | room (count : Nat)
  deriving DecidableEq, Repr

namespace Effect

variable {α : Type}

def withClosed (d : Descriptor) (act : Effect α) : Effect α := do
  match (← get).kernel.fileId? d with
  | none => act
  | some id =>
    modify fun s => { s with kernel := s.kernel.forget d }
    let a ← act
    modify fun s => { s with kernel := s.kernel.reseat d id }
    return a

def withRoom (count : Nat) (act : Effect α) : Effect α := do
  let limit := (← get).kernel.limit
  modify fun s => { s with kernel := { s.kernel with limit := some (s.kernel.openCount + count) } }
  let a ← act
  modify fun s => { s with kernel := { s.kernel with limit := limit } }
  return a

/-- Runs an operation on a handle, if there is one, under a fault, if there is one. -/
def under {H : Type} [Backing H] (fault : Option Fault) (handle : Option H) (act : Effect α) :
    Effect α :=
  match fault with
  | none => act
  | some (.room count) => withRoom count act
  | some .closed =>
    match handle with
    | none => act
    | some h => withClosed (Backing.descriptor h) act
  | some .closedReserve =>
    match handle.bind Backing.reserve with
    | none => act
    | some d => withClosed d act

end Effect

end SharedMemory
