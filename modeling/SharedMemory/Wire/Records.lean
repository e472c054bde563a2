import SharedMemory.Layout
import SharedMemory.Logging.Logger
import SharedMemory.Wire.Values
/-!
# Records on the wire

How headers, layouts, protections and logger settings are written and read. A layout is checked
after it was read. Logger settings that are left out have their defaults, and settings that do not
exist are refused.
-/
namespace SharedMemory.Wire

open Json

structure PartialHeader where
  mode : Option Mode := none
  size : Option Nat := none
  guid : Option Guid := none

def headerShape : RecordShape PartialHeader Header where
  name := "RegionHeader"
  empty := {}
  fields := [
    .option "mode" (·.mode) (fun p a => { p with mode := some a }) readMode,
    .option "size" (·.size) (fun p a => { p with size := some a }) (readWord "u64"),
    .option "guid" (·.guid) (fun p a => { p with guid := some a }) readGuid]
  complete p := do
    let mode ← required "mode" p.mode
    let size ← required "size" p.size
    let guid ← required "guid" p.guid
    return ⟨mode, size, guid⟩

def readHeader : Read Header := headerShape.read

def writeHeader (h : Header) : List Char :=
  writeObject [("mode", writeMode h.mode), ("size", Decimal.digits h.size),
    ("guid", writeGuid h.guid)]

structure PartialLayout where
  page : Option Nat := none
  granularity : Option Nat := none

def layoutShape : RecordShape PartialLayout Layout where
  name := "RawMemoryLayout"
  empty := {}
  fields := [
    .option "page_size" (·.page) (fun p a => { p with page := some a }) (readWord "usize"),
    .option "allocation_granularity" (·.granularity)
      (fun p a => { p with granularity := some a }) (readWord "usize")]
  complete p := do
    let page ← required "page_size" p.page
    let granularity ← required "allocation_granularity" p.granularity
    match Layout.ofSizes page granularity with
    | .ok l => return l
    | .error e => throw (.layout e)

def readLayout : Read Layout := layoutShape.read

def writeLayout (l : Layout) : List Char :=
  writeObject [("page_size", Decimal.digits l.page),
    ("allocation_granularity", Decimal.digits l.granularity)]

structure PartialProtection where
  read : Option Bool := none
  write : Option Bool := none

def protectionShape : RecordShape PartialProtection Protection where
  name := "Protection"
  empty := {}
  fields := [
    .option "read" (·.read) (fun p a => { p with read := some a }) readBoolean,
    .option "write" (·.write) (fun p a => { p with write := some a }) readBoolean]
  complete p := do
    let read ← required "read" p.read
    let write ← required "write" p.write
    return ⟨read, write⟩

def readProtection : Read Protection := protectionShape.read

def writeProtection (p : Protection) : List Char :=
  writeObject [("read", writeBoolean p.read), ("write", writeBoolean p.write)]

structure PartialConfig where
  filter : Option String := none
  echo : Option Bool := none

def configShape : RecordShape PartialConfig LogConfig where
  name := "LogConfig"
  empty := {}
  strict := true
  fillsGaps := true
  fields := [
    .option "filter" (·.filter) (fun p a => { p with filter := some a }) (readString "a string"),
    .option "stderr" (·.echo) (fun p a => { p with echo := some a }) readBoolean]
  complete p :=
    let default : LogConfig := {}
    .ok ⟨p.filter.getD default.filter, p.echo.getD default.echo⟩

def readConfig : Read LogConfig := configShape.read

def writeConfig (c : LogConfig) : List Char :=
  writeObject [("filter", writeString c.filter), ("stderr", writeBoolean c.echo)]

end SharedMemory.Wire
