import SharedMemory.Logging.Filter
/-!
# The logger

A process has room for one logger, ours or a foreign one, and for one level that is looked at
first. Ours is set up by the first request to do so; that request's outcome is final. Later
requests neither try again nor change anything.
-/
namespace SharedMemory

structure LogConfig where
  filter : String := "info"
  /-- Whether records are printed. Otherwise they are formatted and dropped. -/
  echo : Bool := true
  deriving DecidableEq, Repr

instance : Inhabited LogConfig := ⟨{}⟩

inductive LogError where
  | poisoned
  | occupied
  deriving DecidableEq, Repr

def LogError.message : LogError → String
  | .poisoned => "initialization previously failed and cannot be retried"
  | .occupied => "failed to install logger: attempted to set a logger after the logging " ++
      "system was already initialized"

structure Logger where
  filter : Filter
  echo : Bool
  /-- Records are printed where a test harness can see them. -/
  captured : Bool
  deriving DecidableEq, Repr

inductive Installed where
  /-- Loggers of others are told apart by a number. -/
  | foreign (id : Nat)
  | own (logger : Logger)
  deriving DecidableEq, Repr

structure Logging where
  installed : Option Installed := none
  maxLevel : Threshold := none
  /-- The first request was made. -/
  attempted : Bool := false
  /-- The first request succeeded. -/
  ready : Bool := false
  deriving DecidableEq, Repr

namespace Logging

instance : Inhabited Logging := ⟨{}⟩

/-- Asks for our logger, possibly one for tests. The texts are warnings about the filter, which only
the first request reads. -/
def install (config : LogConfig) (captured : Bool) :
    StateM Logging (Except LogError Unit × List String) :=
  fun l =>
    if l.attempted then
      ((if l.ready then .ok () else .error .poisoned, []), l)
    else
      let (filter, warnings) := Filter.read config.filter
      match l.installed with
      | some _ => ((.error .occupied, warnings), { l with attempted := true })
      | none =>
        ((.ok (), warnings),
          { installed := some (.own ⟨filter, config.echo, captured⟩)
            maxLevel := filter.maxLevel
            attempted := true
            ready := true })

def request (config : LogConfig) : StateM Logging (Except LogError Unit × List String) :=
  install config false

/-- The request for the default logger. -/
def requestDefault : StateM Logging (Except LogError Unit × List String) := request {}

/-- The request for a logger that prints everything, for tests. -/
def requestVerbose : StateM Logging (Except LogError Unit × List String) :=
  install { filter := "trace" } true

/-- Installs a logger that drops everything, and says whether there was room for it. -/
def installForeign (id : Nat := 0) : StateM Logging Bool := fun l =>
  match l.installed with
  | some _ => (false, l)
  | none => (true, { l with installed := some (.foreign id) })

/-- Whether the logger wants records of a level and a target. -/
def enables (l : Logging) (level : Level) (target : String) : Bool :=
  l.maxLevel.passes level &&
    match l.installed with
    | some (.own logger) => logger.filter.enables level target
    | _ => false

/-- Whether a record is printed. -/
def prints (l : Logging) (r : Record) : Bool :=
  l.maxLevel.passes r.level &&
    match l.installed with
    | some (.own logger) => logger.echo && logger.filter.passes r
    | _ => false

end Logging

end SharedMemory
