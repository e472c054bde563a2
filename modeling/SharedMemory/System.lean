import SharedMemory.Guid
import SharedMemory.Journal
import SharedMemory.Kernel.Basic
/-!
# The system under the regions

The kernel, the records written so far, and two supplies of random numbers: one for region
identifiers and one for names. An operation is a function of this state.
-/
namespace SharedMemory

/-- A sequence of random identifiers and the number of those in use. -/
structure Supply where
  draw : Nat → Guid
  drawn : Nat := 0

namespace Supply

/-- Mixes the bits of a word. No two words give the same. -/
def mix (w : UInt64) : UInt64 :=
  let w := (w ^^^ (w >>> 30)) * 0xBF58476D1CE4E5B9
  let w := (w ^^^ (w >>> 27)) * 0x94D049BB133111EB
  w ^^^ (w >>> 31)

/-- The word at a place of the pseudorandom sequence of a seed. -/
def word (seed : UInt64) (place : Nat) : UInt64 :=
  mix (seed + place.toUInt64 * 0x9E3779B97F4A7C15)

/-- The identifiers of a seed. Each takes two words of its sequence. -/
def ofSeed (seed : UInt64) : Supply where
  draw n :=
    Guid.ofRandom ((word seed (2 * n + 1)).toBitVec ++ (word seed (2 * n + 2)).toBitVec)

instance : Inhabited Supply := ⟨ofSeed 0⟩

def next (s : Supply) : Guid := s.draw s.drawn

def advance (s : Supply) : Supply := { s with drawn := s.drawn + 1 }

/-- The place of an identifier among those drawn. -/
def index? (s : Supply) (g : Guid) : Option Nat := (List.range s.drawn).find? (s.draw · == g)

end Supply

structure System where
  kernel : Kernel := {}
  /-- The records, latest first. -/
  journal : List Record := []
  guids : Supply := default
  names : Supply := default

namespace System

/-- The system at its start, with the random numbers of a seed. -/
def ofSeed (seed : UInt64) : System where
  guids := .ofSeed seed
  names := .ofSeed (Supply.mix seed)

end System

/-- What is done to the system, with an answer. -/
abbrev Effect := StateM System

namespace Effect

/-- Makes a system call. If it failed, the error cell is read before anything else happens. -/
def attempt {α : Type} (call : Kernel → Option α × Kernel) : Effect (Except Errno α) := fun s =>
  let (answer, kernel) := call s.kernel
  let outcome :=
    match answer with
    | some a => .ok a
    | none => .error kernel.lastError
  (outcome, { s with kernel })

def record (level : Level) (target text : String) : Effect Unit :=
  modify fun s => { s with journal := ⟨level, target, text, none⟩ :: s.journal }

def freshGuid : Effect Guid := fun s => (s.guids.next, { s with guids := s.guids.advance })

/-- A name for a shared memory object, with the first 24 digits of a random identifier. -/
def freshName : Effect String := fun s =>
  ("/shr." ++ String.ofList (s.names.next.digits.take 24),
    { s with names := s.names.advance })

end Effect

end SharedMemory
