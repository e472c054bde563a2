import SharedMemory.Kernel.Basic
/-!
# Calls on descriptors

Making, duplicating and closing descriptors, the lengths of objects, and the names of shared
memory objects. A duplicate shares the open file; an object opened anew gets an open file of its
own, whatever its seals are.
-/
namespace SharedMemory.Kernel

/-- Makes a memory object without a name, open for reading and writing. -/
def createMemory (sealing : Bool) : Kernel → Option Descriptor × Kernel :=
  invoke (.createMemory sealing) (openNew (.memory sealing) .readWrite)

/-- Makes a named shared memory object, open for reading and writing. The name must be new. -/
def createShared (name : String) : Kernel → Option Descriptor × Kernel :=
  invoke (.createShared name) fun k => do
    if k.atLimit then throw .tooManyOpen
    if (k.names.lookup name).isSome then throw .alreadyExists
    openNew (.memory false) .readWrite { k with names := (name, k.objects.length) :: k.names }

/-- Opens a named shared memory object for reading. -/
def openShared (name : String) : Kernel → Option Descriptor × Kernel :=
  invoke (.openShared name) fun k => do
    if k.atLimit then throw .tooManyOpen
    match k.names.lookup name with
    | none => throw .noEntry
    | some id => openObject id .read k

/-- Removes a name. The object stays as long as it is in use. -/
def unlinkShared (name : String) : Kernel → Option Unit × Kernel :=
  invoke (.unlinkShared name) fun k =>
    if (k.names.lookup name).isSome then
      .ok ((), { k with names := k.names.filter (·.1 != name) })
    else .error .noEntry

/-- Makes a pipe: its reading end and its writing end. -/
def makePipe : Kernel → Option (Descriptor × Descriptor) × Kernel :=
  invoke .makePipe fun k => do
    let (reader, k) ← openNew { kind := .pipe } .read k
    let (writer, k) ← openObject (k.objects.length - 1) .write k
    return ((reader, writer), k)

/-- Opens the object of a descriptor anew. -/
def reopen (d : Descriptor) (access : Access) : Kernel → Option Descriptor × Kernel :=
  invoke (.reopen d access) fun k =>
    match k.file? d with
    | none => .error .noEntry
    | some file => openObject file.object access k

def duplicate (d : Descriptor) : Kernel → Option Descriptor × Kernel :=
  invoke (.duplicate d) fun k =>
    match k.fileId? d with
    | none => .error .badDescriptor
    | some id => install id k

/-- Has a descriptor closed when another program is run. -/
def markCloseOnExec (d : Descriptor) : Kernel → Option Unit × Kernel :=
  invoke (.markCloseOnExec d) (onFile d fun _ k => .ok ((), k))

/-- Frees the number of a descriptor. -/
def forget (d : Descriptor) (k : Kernel) : Kernel :=
  match d.number with
  | .ofNat n => { k with descriptors := k.descriptors.erase n }
  | .negSucc _ => k

/-- Closes a descriptor. Its number is free afterwards even if the call reports an error. -/
def close (d : Descriptor) (k : Kernel) : Option Unit × Kernel :=
  let (done, k) := invoke (.close d) (onFile d fun _ k => .ok ((), k)) k
  (done, k.forget d)

/-- Sets the length of an object. Lengths are signed 64-bit words. -/
def setLength (d : Descriptor) (length : Int) : Kernel → Option Unit × Kernel :=
  invoke (.setLength d length) fun k =>
    match length with
    | .negSucc _ => .error .invalidArgument
    | .ofNat n =>
      onFile d (fun file k =>
        let object := k.object file.object
        if object.kind = .pipe ∨ ¬ file.access.canWrite then .error .invalidArgument
        else if n < object.length ∧ object.seals.shrink then .error .notPermitted
        else if object.length < n ∧ object.seals.grow then .error .notPermitted
        else .ok ((), k.modifyObject file.object (·.resize n))) k

/-- How many of the bytes written to an object from a position on it takes. They are written page
by page, so one that may not grow takes those of the pages that lie inside of it. -/
def room (k : Kernel) (object : Object) (position count : Nat) : Nat :=
  if object.length < position + count ∧ object.seals.grow then
    object.length / k.pageSize * k.pageSize - position
  else count

/-- Writes bytes to an object, as many as it takes, and says how many. It grows if they reach past
its end. -/
def writeAt (d : Descriptor) (position : Nat) (data : List UInt8) :
    Kernel → Option Nat × Kernel :=
  invoke (.writeAt d position data.length) (onFile d fun file k =>
    let object := k.object file.object
    let count := k.room object position data.length
    if ¬ file.access.canWrite then .error .badDescriptor
    else if object.kind = .pipe ∨ data = [] then .ok (data.length, k)
    else if object.seals.blocksWrites ∨ count = 0 then .error .notPermitted
    else
      let reach := position + count
      let grown := if object.length < reach then object.resize reach else object
      .ok (count, k.modifyObject file.object fun _ => grown.overwrite position (data.take count)))

def queryAccess (d : Descriptor) : Kernel → Option Access × Kernel :=
  invoke (.queryAccess d) (onFile d fun file k => .ok (file.access, k))

def queryLength (d : Descriptor) : Kernel → Option Nat × Kernel :=
  invoke (.queryLength d) (onFile d fun file k => .ok ((k.object file.object).length, k))

/-- Whether two descriptors share one open file. -/
def compareFiles (a b : Descriptor) : Kernel → Option Bool × Kernel :=
  invoke (.compareFiles a b) fun k =>
    match k.fileId? a, k.fileId? b with
    | some i, some j => .ok (i == j, k)
    | _, _ => .error .badDescriptor

/-- The seals of an object, as a mask on the system's side. -/
def querySeals (d : Descriptor) : Kernel → Option Seals × Kernel :=
  invoke (.querySeals d) (onFile d fun file k =>
    let object := k.object file.object
    if object.kind = .pipe then .error .invalidArgument else .ok (object.seals, k))

/-- A writable mapping of an object is live. Kernels that count those too that could be made
writable refuse more than this, which is left to the plan. -/
def hasWritableMapping (k : Kernel) (id : ObjectId) : Bool :=
  k.mappings.values.any fun m => m.object == id && m.writable

/-- The seals that a mask asks for, if this kernel knows them all. -/
def knownSeals? (k : Kernel) (mask : Nat) : Option Seals :=
  (Seals.ofMask? mask).filter fun s => k.knowsFutureWrite || !s.futureWrite

/-- Adds the seals of a mask, and what they bring along, to those of an object. A live writable
mapping keeps the seal on writes away. -/
def addSeals (d : Descriptor) (mask : Nat) : Kernel → Option Unit × Kernel :=
  invoke (.addSeals d mask) (onFile d fun file k =>
    let object := k.object file.object
    if ¬ file.access.canWrite then .error .notPermitted
    else
      match k.knownSeals? mask with
      | none => .error .invalidArgument
      | some asked =>
        let added := asked.withImplied
        if object.kind = .pipe then .error .invalidArgument
        else if object.seals.closed then .error .notPermitted
        else if added.write ∧ k.hasWritableMapping file.object then .error .busy
        else .ok ((), k.modifyObject file.object fun o => { o with seals := o.seals.union added }))

end SharedMemory.Kernel
