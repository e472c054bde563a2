import SharedMemory.Text.Decimal
/-!
# Records

What an operation tells about itself: a text with a level, the part of the program that it comes
from, and possibly a source position. Whether a record is printed is up to the logger.
-/
namespace SharedMemory

inductive Level where
  | error
  | warn
  | info
  | debug
  | trace
  deriving DecidableEq, Repr

namespace Level

def all : List Level := [error, warn, info, debug, trace]

/-- Levels are numbered from the gravest on; 0 is kept for no level at all. -/
def rank : Level → Nat
  | error => 1
  | warn => 2
  | info => 3
  | debug => 4
  | trace => 5

def name : Level → String
  | error => "ERROR"
  | warn => "WARN"
  | info => "INFO"
  | debug => "DEBUG"
  | trace => "TRACE"

end Level

structure Record where
  level : Level
  target : String
  text : String
  position : Option (String × Nat) := none
  deriving DecidableEq

/-- The printed line: time, level and source position in brackets, then the text. -/
def Record.line (r : Record) (time : String) : String :=
  let place :=
    match r.position with
    | some (file, line) => ":" ++ file ++ ":" ++ Decimal.text line
    | none => ""
  "[" ++ time ++ ":" ++ r.level.name ++ place ++ "] " ++ r.text ++ "\n"

end SharedMemory
